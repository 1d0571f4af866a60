import BoundaryContract.Yaml.Scalar

/-!
# Tokens of YAML text

The parts that a text is divided into: the indicators of collections, the marks of entries, keys and
values, the properties of nodes, and scalars. The starts and ends of block collections, which have
no character of their own, are tokens too.
-/

namespace BoundaryContract.Yaml

/-- The bytes of a tag or a part of one; its characters can be given by their bytes. -/
abbrev TagText := List UInt8

/-- The bytes of a text as a tag. -/
def TagText.ofString (s : String) : TagText := s.toUTF8.toList

/-- What a token is. -/
inductive TokenKind
  | streamEnd
  | versionDirective (major minor : Nat)
  | tagDirective (handle : String) (address : TagText)
  | documentStart
  | documentEnd
  | blockSequenceStart
  | blockMappingStart
  | blockEnd
  | flowSequenceStart
  | flowSequenceEnd
  | flowMappingStart
  | flowMappingEnd
  | blockEntry
  | flowEntry
  | key
  | value
  | alias (name : String)
  | anchor (name : String)
  | tag (handle : String) (suffix : TagText)
  | scalar (text : List Char) (presentation : Presentation)
  /-- The text cannot be divided further. -/
  | malformed (m : Malformation)
deriving DecidableEq

/-- A token and where it stands. -/
structure Token where
  kind : TokenKind
  start : Mark
  stop : Mark
deriving DecidableEq

end BoundaryContract.Yaml
