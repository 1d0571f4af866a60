import BoundaryContract.Event

/-!
# Failures of exported calls

An exported call reports a failure through a slot of its thread, as a code and a message, and
returns a neutral value.
-/

namespace BoundaryContract.Abi

/-- The codes of the last-error slot. -/
inductive Code
  | success
  | nullPointer
  | utf8Error
  | internalError
deriving DecidableEq

namespace Code

/-- All codes. -/
def all : List Code := [success, nullPointer, utf8Error, internalError]

/-- The name of a code. -/
def name : Code → String
  | success => "Success"
  | nullPointer => "NullPointer"
  | utf8Error => "Utf8Error"
  | internalError => "InternalError"

/-- The number of a code. -/
def number : Code → Int
  | success => 0
  | nullPointer => -2
  | utf8Error => -3
  | internalError => -9

/-- Whether the code stands for success. -/
def isSuccess (c : Code) : Bool := c = success

/-- What a code means. -/
def meaning : Code → String
  | success => "Success"
  | nullPointer => "Null pointer provided"
  | utf8Error => "Invalid UTF-8 string"
  | internalError => "Internal error"

end Code

/-- Why a call failed. -/
structure Failure where
  code : Code
  message : String
deriving DecidableEq

namespace Failure

/-- A null pointer passed for the named parameter. -/
def null (param : String) : Failure := ⟨.nullPointer, param ++ " is null"⟩

/-- Bytes passed for the named parameter that are not UTF-8. -/
def invalidUtf8 (param : String) : Failure := ⟨.utf8Error, "Invalid UTF-8 in " ++ param⟩

/-- A handle passed for the named parameter that is not live; callers promise not to. -/
def notLive (param : String) : Failure := ⟨.internalError, param ++ " is not a live handle"⟩

/-- The event of a failure. -/
def event (f : Failure) : Event :=
  ⟨.warn, "FFI call failed", [("code", .text f.code.name), ("message", .text f.message)]⟩

end Failure

end BoundaryContract.Abi
