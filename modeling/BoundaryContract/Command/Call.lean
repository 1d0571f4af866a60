import BoundaryContract.Command.Error
import BoundaryContract.Config
import BoundaryContract.Console
import BoundaryContract.Surface.Listing
import BoundaryContract.Value.Plain

/-!
# The call command

Calls one function of the surface. Its arguments are given as JSON texts; for a string parameter a
text that is no JSON stands for itself.
-/

namespace BoundaryContract.Command

/-- What is asked of a call. -/
structure Call where
  function : String
  args : List String
  /-- The backend, unless the configured one is meant. -/
  backend : Option Backend := none
deriving DecidableEq

namespace Call

/-- The JSON value of a literal. -/
def readLiteral (p : Param) (literal : String) : Except Command.Error Json :=
  match Json.read literal with
  | .ok json => .ok json
  | .error e =>
    if p.kind = .string then .ok (.string literal)
    else
      .error (.invalidArgs ("argument '" ++ p.name ++ "' is not a JSON literal: " ++ e.message))

/-- The argument that a literal stands for. -/
def parseArg (p : Param) (literal : String) : Except Command.Error Value := do
  let json ← readLiteral p literal
  (Value.ofJson p.kind json).mapError .core

/-- The arguments that literals stand for, from left to right. -/
def parseEach : List Param → List String → Except Command.Error (List Value)
  | p :: params, literal :: literals => do
    return (← parseArg p literal) :: (← parseEach params literals)
  | _, _ => .ok []

/-- The arguments that literals stand for, if there are as many as parameters. -/
def parseArgs (s : Signature) (literals : List String) : Except Command.Error (List Value) :=
  if literals.length = s.arity then parseEach s.params literals
  else .error (.core (.arityMismatch s.name s.arity literals.length))

/-- The remark that tells what is called. -/
def remark (s : Signature) (args : List Value) (backend : Backend) : String :=
  s.name ++ "(" ++ ", ".intercalate (args.map Value.display) ++ ") via " ++ backend.title

/-- The document of a call and its result. -/
def document (s : Signature) (args : List Value) (backend : Backend) (result : Value) : Json :=
  .object
    [("args", .array (args.map Value.toJson)), ("backend", .string backend.name),
     ("function", .string s.name), ("result", result.toJson), ("returns", s.returns.toJson)]

/-- Makes the call and tells about it. -/
def run (call : Call) (config : Config) (console : Console) : Reply :=
  let backend := call.backend.getD config.suite.backend
  let answer : Except Command.Error String := do
    match Function.ofName? call.function with
    | none => .error (.core (.unknownFunction call.function))
    | some function =>
      let s := function.signature
      let args ← parseArgs s call.args
      let result ← (backend.invoke s.name args).mapError .core
      return console.info (remark s args backend) ++
        console.document (.ofJson (document s args backend result))
  match answer with
  | .ok output => .done output
  | .error e => .fail e

end Call

end BoundaryContract.Command
