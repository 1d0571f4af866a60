import BoundaryContract.Text.Ranges

/-!
# White space

The characters that Unicode counts as white space, and texts without those at their ends.
-/

namespace BoundaryContract.Text

/-- Ranges of code points that are white space. -/
def spaceRanges : List (Nat × Nat) :=
  [(0x9, 0xd), (0x20, 0x20), (0x85, 0x85), (0xa0, 0xa0), (0x1680, 0x1680), (0x2000, 0x200a),
   (0x2028, 0x2029), (0x202f, 0x202f), (0x205f, 0x205f), (0x3000, 0x3000)]

/-- Whether a character is white space. -/
def isSpace (c : Char) : Bool := inRanges spaceRanges c.toNat

/-- The characters without the white space at their end. -/
def trimEnd (cs : List Char) : List Char := (cs.reverse.dropWhile isSpace).reverse

/-- What is taken off at the end is white space. -/
theorem trimEnd_append {cs spaces : List Char} (hspaces : ∀ c ∈ spaces, isSpace c)
    (hlast : ∀ c ∈ cs.getLast?, isSpace c = false) : trimEnd (cs ++ spaces) = cs := by
  have hend : cs.reverse.dropWhile isSpace = cs.reverse := by
    rw [← List.head?_reverse] at hlast
    cases hreverse : cs.reverse with
    | nil => rfl
    | cons c rest => exact List.dropWhile_cons_of_neg (by simp [hlast c (by rw [hreverse]; rfl)])
  rw [trimEnd, List.reverse_append,
    List.dropWhile_append_of_pos fun c hc => hspaces c (List.mem_reverse.mp hc), hend,
    List.reverse_reverse]

/-- The characters without the white space at both ends. -/
def trim (cs : List Char) : List Char := trimEnd (cs.dropWhile isSpace)

end BoundaryContract.Text
