import BoundaryContract.Json.Tree

/-!
# Where containers close

A reader that takes a fixed number of items from a container has to know that nothing follows the
last of them. `Tree.Snug` says that in every container of a tree that is closed, the closing bracket
is what comes next after the last part; it holds of the tree of any text at all (`snug_parse`).
-/

namespace BoundaryContract.Json.Tree

mutual

/-- In every closed container the bracket follows the last part. -/
def Snug : Tree → Prop
  | .array items closing _ => SnugItems closing items
  | .object entries closing _ => SnugEntries closing entries
  | .null _ _ | .bool _ _ _ | .number _ _ _ | .string _ _ _ | .broken _ _ | .unreached _ => True

/-- The bracket of an array, if it is closed, follows the last of the items. -/
def SnugItems (closing : Closing) : List Tree → Prop
  | [] => True
  | item :: rest =>
    Snug item ∧ SnugItems closing rest ∧
      (rest = [] → ∀ stop, closing = .closed stop →
        skipBlanks (item.stop?.getD []) = ']' :: stop)

/-- The brace of an object, if it is closed, follows the last of the entries. -/
def SnugEntries (closing : Closing) : List (Key × Tree) → Prop
  | [] => True
  | (_, value) :: rest =>
    Snug value ∧ SnugEntries closing rest ∧
      (rest = [] → ∀ stop, closing = .closed stop →
        skipBlanks (value.stop?.getD []) = '\x7d' :: stop)

end

/-! ### Trees of texts -/

/-- A word has no parts. -/
theorem snug_ofWord (leaf : List Char → Tree) (hleaf : ∀ stop, (leaf stop).Snug)
    (word start s : List Char) : (ofWord leaf word start s).Snug := by
  rw [ofWord]
  split
  · exact hleaf _
  · trivial

theorem snug_ofNumber (negative : Bool) (start s : List Char) :
    (ofNumber negative start s).Snug := by
  rw [ofNumber]
  split <;> trivial

theorem snug_ofString (start s : List Char) : (ofString start s).Snug := by
  rw [ofString]
  split <;> trivial

/-- A scalar has no parts. -/
theorem snug_ofScalar (s : List Char) : (ofScalar s).Snug := by
  rw [ofScalar.eq_def]
  split
  · trivial
  · split
    · exact snug_ofWord (.null _) (fun _ => trivial) _ _ _
    · exact snug_ofWord (.bool true _) (fun _ => trivial) _ _ _
    · exact snug_ofWord (.bool false _) (fun _ => trivial) _ _ _
    · exact snug_ofNumber _ _ _
    · exact snug_ofString _ _
    · split
      · exact snug_ofNumber _ _ _
      · trivial

/-- What the reader of an array gives: parts that are snug, and if there are none and the array is
closed, then the text was at the bracket already. -/
def SnugArray (s : List Char) (r : List Tree × Closing) : Prop :=
  SnugItems r.2 r.1 ∧ (r.1 = [] → ∀ stop, r.2 = .closed stop → s = ']' :: stop)

/-- What the reader of an object gives. -/
def SnugObject (s : List Char) (r : List (Key × Tree) × Closing) : Prop :=
  SnugEntries r.2 r.1 ∧ (r.1 = [] → ∀ stop, r.2 = .closed stop → s = '\x7d' :: stop)

variable {fuel : Nat} {s : List Char}

/-- An item is followed by the next one or by the bracket. -/
theorem snug_itemOfText (hvalue : ∀ s, (ofText fuel s).Snug)
    (hitems : ∀ s, SnugArray s (itemsOfText fuel false s)) (s : List Char) :
    SnugArray s (itemOfText (fuel + 1) s) := by
  rw [itemOfText]
  dsimp only
  split
  · exact ⟨⟨hvalue s, trivial, fun _ _ h => nomatch h⟩, fun h => nomatch h⟩
  · next stop hstop =>
    obtain ⟨hsnug, hempty⟩ := hitems (skipBlanks stop)
    refine ⟨⟨hvalue s, hsnug, fun hrest stop' hclosing => ?_⟩, fun h => nomatch h⟩
    rw [hstop]
    exact hempty hrest stop' hclosing

/-- The bracket is met where the items end, or at once. -/
theorem snug_itemsOfText (hitem : ∀ s, SnugArray s (itemOfText fuel s)) (first : Bool)
    (s : List Char) : SnugArray s (itemsOfText (fuel + 1) first s) := by
  -- an item that stands after a comma is there, so the array is not empty
  have hcons : ∀ s s', SnugArray s' (itemOfText fuel s) := by
    intro s s'
    obtain ⟨hsnug, -⟩ := hitem s
    refine ⟨hsnug, fun hnil => ?_⟩
    cases fuel with
    | zero => intro stop h; cases h
    | succ fuel =>
      rw [itemOfText] at hnil
      dsimp only at hnil
      split at hnil <;> cases hnil
  rw [itemsOfText.eq_def]
  dsimp only
  split
  · exact ⟨trivial, fun _ _ h => nomatch h⟩
  · refine ⟨trivial, fun _ stop h => ?_⟩
    cases h
    rfl
  · split
    · exact ⟨⟨snug_ofScalar _, trivial, fun _ _ h => nomatch h⟩, fun h => nomatch h⟩
    · split
      · exact ⟨trivial, fun _ _ h => nomatch h⟩
      · exact ⟨trivial, fun _ _ h => nomatch h⟩
      · exact hcons _ _
  · split
    · exact hcons _ _
    · exact ⟨trivial, fun _ _ h => nomatch h⟩

/-- An entry is followed by the next one or by the brace. -/
theorem snug_entryOfText (hvalue : ∀ s, (ofText fuel s).Snug)
    (hentries : ∀ s, SnugObject s (entriesOfText fuel false s)) (s s' : List Char) :
    SnugObject s' (entryOfText (fuel + 1) s) := by
  rw [entryOfText]
  split
  · exact ⟨trivial, fun _ _ h => nomatch h⟩
  · dsimp only
    split
    · split
      · exact ⟨⟨hvalue _, trivial, fun _ _ h => nomatch h⟩, fun h => nomatch h⟩
      · next stop hstop =>
        obtain ⟨hsnug, hempty⟩ := hentries (skipBlanks stop)
        refine ⟨⟨hvalue _, hsnug, fun hrest stop' hclosing => ?_⟩, fun h => nomatch h⟩
        rw [hstop]
        exact hempty hrest stop' hclosing
    · exact ⟨⟨trivial, trivial, fun _ _ h => nomatch h⟩, fun h => nomatch h⟩
    · exact ⟨⟨trivial, trivial, fun _ _ h => nomatch h⟩, fun h => nomatch h⟩

/-- The brace is met where the entries end, or at once. -/
theorem snug_entriesOfText (hentry : ∀ s s', SnugObject s' (entryOfText fuel s)) (first : Bool)
    (s : List Char) : SnugObject s (entriesOfText (fuel + 1) first s) := by
  rw [entriesOfText.eq_def]
  dsimp only
  split
  · exact ⟨trivial, fun _ _ h => nomatch h⟩
  · refine ⟨trivial, fun _ stop h => ?_⟩
    cases h
    rfl
  · split
    · exact ⟨trivial, fun _ _ h => nomatch h⟩
    · split
      · exact ⟨trivial, fun _ _ h => nomatch h⟩
      · exact ⟨trivial, fun _ _ h => nomatch h⟩
      · exact hentry _ _
      · exact ⟨trivial, fun _ _ h => nomatch h⟩
  · split
    · exact hentry _ _
    · exact ⟨trivial, fun _ _ h => nomatch h⟩
  · refine ⟨trivial, fun _ _ h => ?_⟩
    split at h <;> cases h

/-- The readers of one fuel give what the readers of the fuel before it allow. -/
theorem snug_ofText (fuel : Nat) : (∀ s, (ofText fuel s).Snug) ∧
    (∀ first s, SnugArray s (itemsOfText fuel first s)) ∧
    (∀ s, SnugArray s (itemOfText fuel s)) ∧
    (∀ first s, SnugObject s (entriesOfText fuel first s)) ∧
    ∀ s s', SnugObject s' (entryOfText fuel s) := by
  induction fuel with
  | zero =>
    have harray : ∀ s, SnugArray s ([], .missing) := fun s => ⟨trivial, fun _ _ h => nomatch h⟩
    have hobject : ∀ s, SnugObject s ([], .missing) := fun s => ⟨trivial, fun _ _ h => nomatch h⟩
    exact ⟨fun _ => trivial, fun _ => harray, harray, fun _ => hobject, fun _ => hobject⟩
  | succ fuel ih =>
    obtain ⟨hvalue, hitems, hitem, hentries, hentry⟩ := ih
    refine ⟨fun s => ?_, snug_itemsOfText hitem, snug_itemOfText hvalue (hitems false),
      snug_entriesOfText hentry, snug_entryOfText hvalue (hentries false)⟩
    rw [ofText.eq_def]
    dsimp only
    split
    · exact (hitems true _).1
    · exact (hentries true _).1
    · exact snug_ofScalar _

/-- In the tree of a text every closed container ends right after its last part. -/
theorem snug_parse (s : List Char) : (parse s).Snug := (snug_ofText _).1 _

end BoundaryContract.Json.Tree
