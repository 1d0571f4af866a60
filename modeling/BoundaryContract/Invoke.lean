import BoundaryContract.Boundary
import BoundaryContract.Marshal

/-!
# Calls by name

A call names a function and gives its arguments as values. The arguments are checked against the
signature, count first and then kinds from left to right; only a call that passes reaches the
boundary.
-/

namespace BoundaryContract

namespace Signature

/-- Checks the kinds of arguments from left to right. -/
def checkKinds : List Param → List Value → Except Error Unit
  | param :: params, arg :: args =>
    if arg.kind = param.kind then checkKinds params args else .error (arg.mismatch param.kind)
  | _, _ => .ok ()

/-- Checks the number of arguments and then their kinds. -/
def checkArgs (s : Signature) (args : List Value) : Except Error Unit :=
  if args.length = s.arity then checkKinds s.params args
  else .error (.arityMismatch s.name s.arity args.length)

end Signature

section

variable {σ ω ι : Type}

/-- The call of a function with arguments of the declared kinds; other arguments have no call. -/
def Boundary.dispatch? (B : Boundary σ ω ι) : Function → List Value → Option (Action σ Value)
  | .simple, [] => some ((fun _ => .unit) <$> B.simple)
  | .primitiveArgs, [.int32 i, .bool b] => some ((fun _ => .unit) <$> B.primitiveArgs i b)
  | .stringArg, [.string s] => some ((fun _ => .unit) <$> B.stringArg s)
  | .primitiveAndStringArg, [.int32 i, .bool b, .string s] =>
    some ((fun _ => .unit) <$> B.primitiveAndStringArg i b s)
  | .returnPrimitive, [] => some (.int32 <$> B.returnPrimitive)
  | .returnString, [] => some (.string <$> B.returnString)
  | .combo, [.string str1, .string str2, .bool b] => some (.string <$> B.combo str1 str2 b)
  | _, _ => none

/-- The event of a call that is about to reach the boundary. -/
def Boundary.invoking (B : Boundary σ ω ι) (name : String) : Event :=
  ⟨.debug, "Invoking surface function", [("function", .text name), ("backend", .text B.name)]⟩

/-- Calls a function of the surface by name; a function without result gives the unit value. -/
def Boundary.invoke (B : Boundary σ ω ι) (name : String) (args : List Value) :
    Action σ (Except Error Value) :=
  match Function.ofName? name with
  | none => pure (.error (.unknownFunction name))
  | some function =>
    match function.signature.checkArgs args with
    | .error e => pure (.error e)
    | .ok () => do
      Action.emit (B.invoking name)
      match B.dispatch? function args with
      | some call => .ok <$> call
      | none => pure (.error (.unknownFunction name))

end

end BoundaryContract
