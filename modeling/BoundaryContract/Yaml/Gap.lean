import BoundaryContract.Yaml.Cursor

/-!
# Gaps between the words of a scalar

A scalar can run over several lines. Between two of its words stand blanks, or line breaks with
blanks around them. Blanks within a line are kept; a single break becomes a space, and of several
breaks all but the first are kept.
-/

namespace BoundaryContract.Yaml

/-- The blanks and line breaks between two words. -/
structure Gap where
  /-- Whether there was a line break. -/
  broken : Bool
  /-- The blanks before the first break. -/
  blanks : List Char
  /-- The first break. -/
  first : List Char
  /-- The other breaks. -/
  further : List Char
deriving DecidableEq

namespace Gap

/-- No gap at all. -/
def none : Gap := ⟨false, [], [], []⟩

/-- A gap that begins after a line break which counts for nothing. -/
def afterEscapedBreak : Gap := ⟨true, [], [], []⟩

/-- What a gap contributes to the content. -/
def text (g : Gap) : List Char :=
  if g.broken then
    if g.first = ['\n'] then (if g.further.isEmpty then [' '] else g.further)
    else g.first ++ g.further
  else g.blanks

/-- The gap with one more blank or break. -/
def extend (g : Gap) (c : Cursor) : Gap :=
  if isBlank c.peek then
    if g.broken then g else { g with blanks := g.blanks ++ [c.peek] }
  else if g.broken then { g with further := g.further ++ c.lineBreak }
  else { g with broken := true, blanks := [], first := c.lineBreak }

/-- Reads on to the end of a gap. A tab after a break and before the column `margin` stops the
reading: it would violate the indentation. -/
def read (margin : Nat) : (fuel : Nat) → Gap → Cursor → Gap × Cursor
  | 0, g, c => (g, c)
  | fuel + 1, g, c =>
    if g.broken && c.peek == '\t' && c.mark.column < margin then (g, c)
    else if isBlank c.peek then read margin fuel (g.extend c) (c.skip 1)
    else if isBreak c.peek then read margin fuel (g.extend c) c.nextLine
    else (g, c)

end Gap

end BoundaryContract.Yaml
