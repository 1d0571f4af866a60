/-!
# Positions in a text

A position is a line and a column, both as a reader of the text counts them. `Position.atByte`
counts columns in bytes of the UTF-8 form, from zero after each line break.
-/

namespace BoundaryContract

/-- A line, counted from one, and a column. -/
structure Position where
  line : Nat
  column : Nat
deriving DecidableEq

namespace Text

/-- The number of bytes of the UTF-8 form of a list of characters. -/
def byteLength : List Char → Nat
  | [] => 0
  | c :: cs => c.utf8Size + byteLength cs

end Text

namespace Position

/-- The position reached from `p` after the given number of bytes. -/
def advanceBytes (p : Position) : List Char → Nat → Position
  | [], _ => p
  | _, 0 => p
  | c :: cs, offset =>
    if c = '\n' then advanceBytes ⟨p.line + 1, 0⟩ cs (offset - 1)
    else if c.utf8Size ≤ offset then
      advanceBytes ⟨p.line, p.column + c.utf8Size⟩ cs (offset - c.utf8Size)
    else ⟨p.line, p.column + offset⟩

/-- The position after the given number of bytes of a text. -/
def atByte (text : List Char) (offset : Nat) : Position :=
  advanceBytes ⟨1, 0⟩ text offset

end Position

end BoundaryContract
