import BoundaryContract.Document.Misfit
import BoundaryContract.Text.Position

/-!
# Errors of reading JSON text

A fault is a cause and a place in the text still to be read; `Fault.toError` turns the place into a
line and a column once the whole text is known. Columns count bytes.
-/

namespace BoundaryContract.Json

/-- Why a JSON text cannot be read. -/
inductive Cause
  | eofInArray
  | eofInObject
  | eofInString
  | eofInValue
  | expectedColon
  | expectedCommaOrBracket
  | expectedCommaOrBrace
  | expectedWord
  | expectedValue
  | invalidEscape
  | invalidNumber
  | numberOutOfRange
  | controlCharacter
  | keyNotString
  | loneSurrogate
  | brokenSurrogatePair
  | trailingComma
  | trailingCharacters
  | tooDeep
  | misfit (m : Misfit)
deriving DecidableEq

/-- JSON calls the empty value `null` and writes doubles as its printer does. -/
def misfitStyle : MisfitStyle := ⟨"null", ⟨-5, 15, true⟩⟩

/-- The wording of a cause, without its position. -/
def Cause.message : Cause → String
  | .eofInArray => "EOF while parsing a list"
  | .eofInObject => "EOF while parsing an object"
  | .eofInString => "EOF while parsing a string"
  | .eofInValue => "EOF while parsing a value"
  | .expectedColon => "expected `:`"
  | .expectedCommaOrBracket => "expected `,` or `]`"
  | .expectedCommaOrBrace => "expected `,` or `\x7d`"
  | .expectedWord => "expected ident"
  | .expectedValue => "expected value"
  | .invalidEscape => "invalid escape"
  | .invalidNumber => "invalid number"
  | .numberOutOfRange => "number out of range"
  | .controlCharacter => "control character (\\u0000-\\u001F) found while parsing a string"
  | .keyNotString => "key must be a string"
  | .loneSurrogate => "lone leading surrogate in hex escape"
  | .brokenSurrogatePair => "unexpected end of hex escape"
  | .trailingComma => "trailing comma"
  | .trailingCharacters => "trailing characters"
  | .tooDeep => "recursion limit exceeded"
  | .misfit m => m.message misfitStyle

/-- A place in a text: `ahead` bytes into the part `rest` that is still unread, though never past
its end. -/
structure Place where
  rest : List Char
  ahead : Nat
deriving DecidableEq

/-- The place right before the unread part. -/
def Place.before (rest : List Char) : Place := ⟨rest, 0⟩

/-- The place one byte into the unread part. -/
def Place.next (rest : List Char) : Place := ⟨rest, 1⟩

/-- A cause with its place, if it has one. -/
structure Fault where
  cause : Cause
  place : Option Place
deriving DecidableEq

/-- A fault right before the unread part. -/
def Fault.before (cause : Cause) (rest : List Char) : Fault := ⟨cause, some (.before rest)⟩

/-- A fault at the first byte of the unread part. -/
def Fault.next (cause : Cause) (rest : List Char) : Fault := ⟨cause, some (.next rest)⟩

/-- The error of reading a JSON text. -/
structure ReadError where
  cause : Cause
  position : Option Position
deriving DecidableEq

/-- The position of a place in the whole text it belongs to. -/
def Place.position (text : List Char) (place : Place) : Position :=
  let total := Text.byteLength text
  Position.atByte text (min total (total - Text.byteLength place.rest + place.ahead))

/-- The error for a fault in a text. -/
def Fault.toError (text : List Char) (fault : Fault) : ReadError :=
  ⟨fault.cause, fault.place.map (Place.position text)⟩

/-- The wording of an error, with its position if it has one. -/
def ReadError.message (e : ReadError) : String :=
  match e.position with
  | none => e.cause.message
  | some p => e.cause.message ++ s!" at line {p.line} column {p.column}"

end BoundaryContract.Json
