import BoundaryContract.Error
import BoundaryContract.FileSystem
import BoundaryContract.Text.Ansi
import BoundaryContract.Yaml.Error

/-!
# Errors of commands

Why a command fails, with the wording that is shown and the exit code that is left.
-/

namespace BoundaryContract.Command

/-- Why a command fails. -/
inductive Error
  | io (fault : FileFault)
  | core (e : BoundaryContract.Error)
  | fileNotFound (path : String)
  | invalidFormat (path expected : String)
  | config (reason : String)
  | invalidArgs (reason : String)
  /-- Checks of an asserted run did not hold. -/
  | conformanceFailed (backend : String) (failed total : Nat)
  | json (e : Json.ReadError)
  | yaml (e : Yaml.ReadError)
  | other (reason : String)
deriving DecidableEq

namespace Error

/-- The wording of an error. -/
def message : Error → String
  | .io fault => "IO error: " ++ fault.message
  | .core e => "Core error: " ++ e.message
  | .fileNotFound path => "File not found: " ++ path
  | .invalidFormat path expected =>
    "Invalid file format for " ++ path ++ ": expected " ++ expected ++ " format"
  | .config reason => "Configuration error: " ++ reason
  | .invalidArgs reason => "Invalid arguments: " ++ reason
  | .conformanceFailed backend failed total =>
    s!"{failed} of {total} conformance checks failed on the " ++ backend ++ " backend"
  | .json e => "JSON error: " ++ e.message
  | .yaml e => "YAML error: " ++ e.message
  | .other reason => reason

/-- The exit code of a command that fails. -/
def exitCode : Error → Nat
  | .io _ => 1
  | .core _ => 2
  | .fileNotFound _ => 3
  | .invalidFormat _ _ => 4
  | .config _ => 5
  | .invalidArgs _ => 6
  | .conformanceFailed _ _ _ => 7
  | .json _ => 12
  | .yaml _ => 13
  | .other _ => 99

/-- Whether the error is a mistake in the use of the command, for which help is offered. -/
def showsHelp : Error → Bool
  | .invalidArgs _ | .core (.unknownFunction _) | .core (.arityMismatch _ _ _) => true
  | _ => false

/-- An error as it is shown. -/
def display (color : Bool) (e : Error) : String :=
  (if color then Text.paint .boldRed "Error:" else "Error:") ++ " " ++ e.message

end Error

/-- What a command gives: the text it writes, and why it fails if it does. -/
structure Reply where
  output : String
  error : Option Error

namespace Reply

/-- A command that succeeds. -/
def done (output : String) : Reply := ⟨output, none⟩

/-- A command that fails before it writes anything. -/
def fail (e : Error) : Reply := ⟨"", some e⟩

end Reply

end BoundaryContract.Command
