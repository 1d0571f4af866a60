import BoundaryContract.Yaml.Character
import BoundaryContract.Yaml.Malformation

/-!
# Reading position

A cursor is the part of a text that is still unread, with its place in the text. Every way of moving
it forward keeps the two in step.
-/

namespace BoundaryContract.Yaml

/-- The unread part of a text and its place. -/
structure Cursor where
  rest : List Char
  mark : Mark
deriving DecidableEq

namespace Cursor

/-- The next character, or the null character at the end. -/
def peek (c : Cursor) : Char := c.rest.headD '\x00'

/-- The character some places further, or the null character past the end. -/
def peekAt (c : Cursor) (n : Nat) : Char := c.rest.getD n '\x00'

/-- Whether the text ends here. -/
def atEnd (c : Cursor) : Bool := c.rest.isEmpty

/-- The cursor after some characters of the line. -/
def skip (c : Cursor) (n : Nat) : Cursor := ⟨c.rest.drop n, c.mark.right n⟩

/-- The characters of the line that satisfy a condition, up to the first that does not. -/
def takeWhile (p : Char → Bool) (c : Cursor) : List Char := c.rest.takeWhile p

/-- The cursor after the characters of the line that satisfy a condition. -/
def skipWhile (p : Char → Bool) (c : Cursor) : Cursor := c.skip (c.rest.takeWhile p).length

/-- Whether a blank or a break comes next. -/
def atBlankOrBreak (c : Cursor) : Bool := isBlank c.peek || isBreak c.peek

/-- Whether a break or the end comes next. -/
def atLineEnd (c : Cursor) : Bool := c.atEnd || isBreak c.peek

/-- Whether a blank, a break or the end comes next. -/
def atWordEnd (c : Cursor) : Bool := endsWord c.rest

/-- The line break that comes next, as it stands in a content: separators of lines and paragraphs
are kept, and every other break is a line feed. -/
def lineBreak (c : Cursor) : List Char :=
  match c.rest with
  | b :: _ => if b == '\u2028' || b == '\u2029' then [b] else if isBreak b then ['\n'] else []
  | [] => []

/-- The cursor after the line break that comes next. -/
def nextLine (c : Cursor) : Cursor :=
  match c.rest with
  | '\r' :: '\n' :: rest => ⟨rest, c.mark.nextLine 2⟩
  | b :: rest => if isBreak b then ⟨rest, c.mark.nextLine 1⟩ else c
  | [] => c

/-- Whether a document marker, three dashes or three periods, stands at the start of the line. -/
def atDocumentMarker (c : Cursor) : Bool :=
  c.mark.column == 0 &&
    match c.rest with
    | '-' :: '-' :: '-' :: rest => endsWord rest
    | '.' :: '.' :: '.' :: rest => endsWord rest
    | _ => false

/-- The cursor after a comment, if one comes next. -/
def skipComment (c : Cursor) : Cursor :=
  if c.peek == '#' then c.skipWhile fun ch => !isBreak ch else c

/-- The cursor after a byte order mark at the start of the line, if one comes next. -/
def skipByteOrderMark (c : Cursor) : Cursor :=
  if c.mark.column == 0 && c.peek == byteOrderMark then c.skip 1 else c

end Cursor

end BoundaryContract.Yaml
