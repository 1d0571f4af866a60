/-!
# Malformed YAML text

Why a text is no YAML: what is wrong and where, and what was being read and where that began. Lines
and columns are counted from zero and shown from one, columns in characters.
-/

namespace BoundaryContract.Yaml

/-- A place in a YAML text, counted from zero. -/
structure Mark where
  index : Nat
  line : Nat
  column : Nat
deriving DecidableEq

namespace Mark

/-- The start of a text. -/
def origin : Mark := ⟨0, 0, 0⟩

/-- The place some characters further in the same line. -/
def right (m : Mark) (n : Nat) : Mark := ⟨m.index + n, m.line, m.column + n⟩

/-- The start of the next line, after a break of some characters. -/
def nextLine (m : Mark) (n : Nat) : Mark := ⟨m.index + n, m.line + 1, 0⟩

/-- Whether the mark is in the first column of the first line, where a place is not told. -/
def isFirst (m : Mark) : Bool := m.line == 0 && m.column == 0

/-- Whether two marks are in the same line and column. -/
def sameCell (m n : Mark) : Bool := m.line == n.line && m.column == n.column

/-- The wording of a place. -/
def text (m : Mark) : String := s!"line {m.line + 1} column {m.column + 1}"

/-- The wording of a place after other words, unless it is not told. -/
def suffix (m : Mark) : String := if m.isFirst then "" else " at " ++ m.text

end Mark

/-- What was being read when a text turned out to be malformed. -/
inductive Activity
  | nextToken
  | simpleKey
  | directive
  | versionDirective
  | tagDirective
  | tagDirectiveStart
  | tagDirectiveHandle
  | tagDirectiveAddress
  | anchor
  | alias
  | tag
  | tagAddress
  | blockScalar
  | quotedScalar
  | quotedEscape
  | plainScalar
  | node
  | blockNode
  | flowNode
  | blockSequence
  | blockMapping
  | flowSequence
  | flowMapping
deriving DecidableEq

/-- The wording of what was being read. -/
def Activity.text : Activity → String
  | .nextToken => "while scanning for the next token"
  | .simpleKey => "while scanning a simple key"
  | .directive => "while scanning a directive"
  | .versionDirective => "while scanning a %YAML directive"
  | .tagDirective => "while scanning a %TAG directive"
  | .tagDirectiveStart => "while scanning a tag directive"
  | .tagDirectiveHandle => "while parsing a tag directive"
  | .tagDirectiveAddress => "while parsing a %TAG directive"
  | .anchor => "while scanning an anchor"
  | .alias => "while scanning an alias"
  | .tag => "while scanning a tag"
  | .tagAddress => "while parsing a tag"
  | .blockScalar => "while scanning a block scalar"
  | .quotedScalar => "while scanning a quoted scalar"
  | .quotedEscape => "while parsing a quoted scalar"
  | .plainScalar => "while scanning a plain scalar"
  | .node => "while parsing a node"
  | .blockNode => "while parsing a block node"
  | .flowNode => "while parsing a flow node"
  | .blockSequence => "while parsing a block collection"
  | .blockMapping => "while parsing a block mapping"
  | .flowSequence => "while parsing a flow sequence"
  | .flowMapping => "while parsing a flow mapping"

/-- What is wrong with a text. -/
inductive Problem
  | noToken
  | noColon
  | sequenceEntryNotAllowed
  | mappingKeyNotAllowed
  | mappingValueNotAllowed
  | unknownDirective
  | noDirectiveName
  | nonAlphabeticDirective
  | noLineEnd
  | noVersionSeparator
  | longVersion
  | noVersion
  | noWhitespace
  | noWhitespaceOrBreak
  | noAnchorName
  | noTagClosing
  | noExclamation
  | noTagAddress
  | noEscapedOctet
  | badLeadingOctet
  | badTrailingOctet
  | zeroIndentation
  | tabInIndentation
  | tabViolatesIndentation
  | unexpectedDocumentMarker
  | unexpectedEnd
  | unknownEscape
  | noHexDigits
  | badCodePoint
  | unexpectedColon
  | noDocumentStart
  | duplicateVersion
  | incompatibleVersion
  | duplicateTagDirective
  | undefinedTagHandle
  | noNodeContent
  | noDash
  | noKey
  | noCommaOrBracket
  | noCommaOrBrace
deriving DecidableEq

/-- The wording of what is wrong. -/
def Problem.text : Problem → String
  | .noToken => "found character that cannot start any token"
  | .noColon => "could not find expected ':'"
  | .sequenceEntryNotAllowed => "block sequence entries are not allowed in this context"
  | .mappingKeyNotAllowed => "mapping keys are not allowed in this context"
  | .mappingValueNotAllowed => "mapping values are not allowed in this context"
  | .unknownDirective => "found unknown directive name"
  | .noDirectiveName => "could not find expected directive name"
  | .nonAlphabeticDirective => "found unexpected non-alphabetical character"
  | .noLineEnd => "did not find expected comment or line break"
  | .noVersionSeparator => "did not find expected digit or '.' character"
  | .longVersion => "found extremely long version number"
  | .noVersion => "did not find expected version number"
  | .noWhitespace => "did not find expected whitespace"
  | .noWhitespaceOrBreak => "did not find expected whitespace or line break"
  | .noAnchorName => "did not find expected alphabetic or numeric character"
  | .noTagClosing => "did not find the expected '>'"
  | .noExclamation => "did not find expected '!'"
  | .noTagAddress => "did not find expected tag URI"
  | .noEscapedOctet => "did not find URI escaped octet"
  | .badLeadingOctet => "found an incorrect leading UTF-8 octet"
  | .badTrailingOctet => "found an incorrect trailing UTF-8 octet"
  | .zeroIndentation => "found an indentation indicator equal to 0"
  | .tabInIndentation => "found a tab character where an indentation space is expected"
  | .tabViolatesIndentation => "found a tab character that violates indentation"
  | .unexpectedDocumentMarker => "found unexpected document indicator"
  | .unexpectedEnd => "found unexpected end of stream"
  | .unknownEscape => "found unknown escape character"
  | .noHexDigits => "did not find expected hexdecimal number"
  | .badCodePoint => "found invalid Unicode character escape code"
  | .unexpectedColon => "found unexpected ':'"
  | .noDocumentStart => "did not find expected <document start>"
  | .duplicateVersion => "found duplicate %YAML directive"
  | .incompatibleVersion => "found incompatible YAML document"
  | .duplicateTagDirective => "found duplicate %TAG directive"
  | .undefinedTagHandle => "found undefined tag handle"
  | .noNodeContent => "did not find expected node content"
  | .noDash => "did not find expected '-' indicator"
  | .noKey => "did not find expected key"
  | .noCommaOrBracket => "did not find expected ',' or ']'"
  | .noCommaOrBrace => "did not find expected ',' or '\x7d'"

/-- Why a text is malformed: the problem and its place, and what was being read and where that
began. -/
structure Malformation where
  problem : Problem
  mark : Mark
  context : Option (Activity × Mark)
deriving DecidableEq

namespace Malformation

/-- The wording of a malformation; the place where reading began is told unless it is that of the
problem. -/
def message (m : Malformation) : String :=
  m.problem.text ++ m.mark.suffix ++
    match m.context with
    | none => ""
    | some (activity, mark) =>
      ", " ++ activity.text ++ if mark.sameCell m.mark then "" else mark.suffix

end Malformation

end BoundaryContract.Yaml
