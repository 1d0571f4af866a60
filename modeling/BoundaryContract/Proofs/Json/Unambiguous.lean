import BoundaryContract.Proofs.Tagged

/-!
# Printed JSON is unambiguous

A tree holds one value only, and the tree of a printed text holds the value that was printed. So two
values that are printed as the same text, in any layout and with any blanks at the end, are the same
(`Layout.eq_of_chars`), however deep they nest. The same holds of values in their tagged form
(`Value.eq_of_chars`).
-/

namespace BoundaryContract

namespace Json

mutual

/-- A tree holds one value only. -/
theorem Tree.Holds.unique {tree : Tree} {json json' : Json} (h : tree.Holds json)
    (h' : tree.Holds json') : json = json' := by
  cases h with
  | null =>
    cases h'
    rfl
  | bool =>
    cases h'
    rfl
  | number hn =>
    cases h' with
    | number hn' =>
      rw [hn, Except.ok.injEq] at hn'
      rw [hn']
  | string =>
    cases h'
    rfl
  | array hitems =>
    cases h' with
    | array hitems' => rw [hitems.unique hitems']
  | object hentries =>
    cases h' with
    | object hentries' => rw [hentries.unique hentries']

/-- Trees hold one list of items only. -/
theorem Tree.ItemsHold.unique {trees : List Tree} {items items' : List Json}
    (h : ItemsHold trees items) (h' : ItemsHold trees items') : items = items' := by
  cases h with
  | nil =>
    cases h'
    rfl
  | cons hitem hrest =>
    cases h' with
    | cons hitem' hrest' => rw [hitem.unique hitem', hrest.unique hrest']

/-- Trees under keys hold one list of entries only. -/
theorem Tree.EntriesHold.unique {trees : List (Key × Tree)}
    {entries entries' : List (String × Json)} (h : EntriesHold trees entries)
    (h' : EntriesHold trees entries') : entries = entries' := by
  cases h with
  | nil =>
    cases h'
    rfl
  | cons hkey hvalue hrest =>
    cases h' with
    | cons hkey' hvalue' hrest' =>
      rw [hkey, Except.ok.injEq] at hkey'
      rw [hkey', hvalue.unique hvalue', hrest.unique hrest']

end

/-- Values that are printed as the same text are the same. -/
theorem Layout.eq_of_chars (L : Layout) {json json' : Json} {s s' : List Char}
    (h : json.Integral) (h' : json'.Integral) (hs : Blanks s) (hs' : Blanks s')
    (heq : L.chars 0 json ++ s = L.chars 0 json' ++ s') : json = json' := by
  have hholds := (L.parse_append h hs).holds
  rw [heq] at hholds
  exact hholds.unique (L.parse_append h' hs').holds

/-- A layout prints different values differently. -/
theorem Layout.chars_inj (L : Layout) {json json' : Json} (h : json.Integral)
    (h' : json'.Integral) (heq : L.chars 0 json = L.chars 0 json') : json = json' := by
  have hnone : Blanks [] := List.forall_mem_nil _
  exact L.eq_of_chars h h' hnone hnone (congrArg (· ++ []) heq)

end Json

namespace Value

/-! ### Integers as texts -/

/-- Integers are shown as JSON prints them. -/
theorem int32Text_eq (n : Int32) : int32Text n = String.ofList (Json.intChars n.toInt) := by
  rw [int32Text]
  cases n.toInt with
  | ofNat k => rfl
  | negSucc k =>
    show "-" ++ String.ofList (Nat.toDigits 10 (k + 1)) = _
    rw [Json.intChars, ← List.singleton_append, String.ofList_append]

theorem int32Text_inj {m n : Int32} (h : int32Text m = int32Text n) : m = n := by
  rw [int32Text_eq, int32Text_eq, String.ofList_inj] at h
  have hsame : Json.int m.toInt = Json.int n.toInt :=
    Json.Layout.compact.chars_inj (Json.fits64_toInt m) (Json.fits64_toInt n) h
  exact Int32.toInt_inj.mp (JsonNumber.int.inj (Json.number.inj hsame))

end Value

/-! ### Values in their tagged form -/

/-- A document is a tagged form of one value only. -/
theorem Value.IsTagged.unique {json : Json} {v v' : Value} (h : IsTagged json v)
    (h' : IsTagged json v') : v = v' := by
  let tree := Json.Tree.parse (Json.Layout.compact.chars 0 json)
  have hholds : tree.Holds json := (Json.Layout.compact.parse_chars h.integral).holds
  -- where nothing nests too deep, the tree is read as either value
  have hread {w : Value} (hw : IsTagged json w) : ofTree json.depth tree = .ok w := by
    obtain ⟨-, hok⟩ | ⟨hdeep, -⟩ := hw.decoded tree json.depth hholds (Json.Tree.snug_parse _)
    · exact hok
    · exact absurd hdeep (Nat.lt_irrefl _)
  have hok := hread h
  rw [hread h', Except.ok.injEq] at hok
  exact hok.symm

/-- Values whose tagged forms are printed as the same text are the same. -/
theorem Value.eq_of_chars (L : Json.Layout) {v v' : Value} {s s' : List Char}
    (hs : Json.Blanks s) (hs' : Json.Blanks s')
    (heq : L.chars 0 v.toTagged ++ s = L.chars 0 v'.toTagged ++ s') : v = v' := by
  have hsame := L.eq_of_chars (integral_toTagged v) (integral_toTagged v') hs hs' heq
  have hv' : IsTagged v.toTagged v' := hsame ▸ isTagged_toTagged v'
  exact (isTagged_toTagged v).unique hv'

end BoundaryContract
