/-!
# Texts in parts

A text that a character divides. Nothing between two dividers is a part too.
-/

namespace BoundaryContract.Text

/-- The parts of a text between the places where a character stands. -/
def split (divider : Char) : List Char → List (List Char)
  | [] => [[]]
  | c :: cs =>
    if c = divider then [] :: split divider cs
    else
      match split divider cs with
      | [] => [[c]]
      | part :: parts => (c :: part) :: parts

end BoundaryContract.Text
