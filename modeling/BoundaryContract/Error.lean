import BoundaryContract.Json.Error
import BoundaryContract.Kind

/-!
# Errors around the surface

The operations of the surface do not fail. What fails is the layer around it: reading values,
dispatching a call by name, and turning a conformance run into a verdict.
-/

namespace BoundaryContract

/-- Why a value could not be read, a call not dispatched, or a conformance run not accepted. -/
inductive Error
  | typeMismatch (expected found : Kind)
  | missingField (owner field : String)
  | arityMismatch (function : String) (expected found : Nat)
  | unknownFunction (name : String)
  | json (e : Json.ReadError)
  | conformance (failed total : Nat)
deriving DecidableEq

namespace Error

/-- The wording of an error. -/
def message : Error → String
  | .typeMismatch expected found =>
    s!"Type mismatch: expected {expected.typeName}, found {found.typeName}"
  | .missingField owner field => s!"Struct {owner} is missing field '" ++ field ++ "'"
  | .arityMismatch function expected found =>
    "Function '" ++ function ++ s!"' takes {expected} argument(s), {found} given"
  | .unknownFunction name => "Unknown function: " ++ name
  | .json e => "JSON error: " ++ e.message
  | .conformance failed total =>
    s!"Conformance failed: {failed} of {total} checks did not hold"

end Error

end BoundaryContract
