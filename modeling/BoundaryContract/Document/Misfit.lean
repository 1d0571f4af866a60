import BoundaryContract.Number.Shortest
import BoundaryContract.Text.Quoted

/-!
# Documents that do not fit

A document can be well formed and still not describe the record that is read from it. `Misfit` lists
the causes, shared by every document format; the few spellings that differ between formats are the
fields of `MisfitStyle`.
-/

namespace BoundaryContract

/-- What a document holds where something else was expected. -/
inductive Found
  | null
  | bool (b : Bool)
  | integer (n : Int)
  | float (x : Binary64)
  | string (s : String)
  | sequence
  | map
  | unitVariant
  /-- Something described in words. -/
  | other (description : String)
deriving DecidableEq

/-- Why a well-formed document does not describe the record wanted. -/
inductive Misfit
  | invalidType (found : Found) (expected : String)
  | invalidValue (found : Found) (expected : String)
  | invalidLength (length : Nat) (expected : String)
  | missingField (field : String)
  | duplicateField (field : String)
  | unknownVariant (name : String) (expected : List String)
deriving DecidableEq

/-- How a format spells the empty value and its floating-point numbers. -/
structure MisfitStyle where
  null : String
  decimals : DecimalStyle

namespace Found

/-- The wording of what was found. -/
def describe (style : MisfitStyle) : Found → String
  | .null => style.null
  | .bool b => s!"boolean `{b}`"
  | .integer n => s!"integer `{n}`"
  | .float x => s!"floating point `{String.ofList (style.decimals.write x)}`"
  | .string s => "string " ++ Text.quote s
  | .sequence => "sequence"
  | .map => "map"
  | .unitVariant => "unit variant"
  | .other description => description

end Found

namespace Misfit

/-- The alternatives of an enumeration, each between grave accents. -/
def alternatives : List String → String
  | [] => "there are no variants"
  | [a] => s!"expected `{a}`"
  | [a, b] => s!"expected `{a}` or `{b}`"
  | names => "expected one of " ++ ", ".intercalate (names.map fun name => s!"`{name}`")

/-- The wording of a misfit, without its position. -/
def message (style : MisfitStyle) : Misfit → String
  | .invalidType found expected =>
    "invalid type: " ++ found.describe style ++ ", expected " ++ expected
  | .invalidValue found expected =>
    "invalid value: " ++ found.describe style ++ ", expected " ++ expected
  | .invalidLength length expected => s!"invalid length {length}, expected {expected}"
  | .missingField field => s!"missing field `{field}`"
  | .duplicateField field => s!"duplicate field `{field}`"
  | .unknownVariant name expected => s!"unknown variant `{name}`, " ++ alternatives expected

end Misfit

end BoundaryContract
