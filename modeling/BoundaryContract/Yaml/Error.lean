import BoundaryContract.Document.Misfit
import BoundaryContract.Yaml.Malformation

/-!
# Errors of reading YAML text

A text can hold forbidden characters, be malformed, hold more than one document, or describe
something else than the record wanted; the last is told with the path that leads to it.
-/

namespace BoundaryContract.Yaml

/-- Why a YAML text cannot be read. -/
inductive ReadError
  /-- A character that YAML text cannot hold, with its place in bytes. -/
  | controlCharacter (offset : Nat)
  /-- The text is malformed. -/
  | malformed (m : Malformation)
  /-- An alias names no anchor before it. -/
  | unknownAnchor (mark : Mark)
  /-- Another document follows the first. -/
  | severalDocuments
  /-- The text describes something else; the path leads to it and the mark is its place. -/
  | misfit (m : Misfit) (path : String) (mark : Mark)
deriving DecidableEq

/-- YAML spells out the empty value and writes doubles without exponents. -/
def misfitStyle : MisfitStyle := ⟨"unit value", ⟨-400, 400, false⟩⟩

/-- The wording of an error. -/
def ReadError.message : ReadError → String
  | .controlCharacter offset =>
    "control characters are not allowed" ++
      if offset = 0 then "" else s!" at position {offset}"
  | .malformed m => m.message
  | .unknownAnchor mark => "unknown anchor" ++ mark.suffix
  | .severalDocuments =>
    "deserializing from YAML containing more than one document is not supported"
  | .misfit m path mark =>
    (if path.isEmpty then "" else path ++ ": ") ++ m.message misfitStyle ++ mark.suffix

end BoundaryContract.Yaml
