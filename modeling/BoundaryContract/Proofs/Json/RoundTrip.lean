import BoundaryContract.Proofs.Json.Content
import BoundaryContract.Proofs.Json.Layout
import BoundaryContract.Proofs.Json.Scalar
import Mathlib.Data.List.TakeWhile

/-!
# Printed JSON text is read back

The tree of a text that was printed from a value holds that value, in every layout and in front of
any text that could not be taken for more of it (`ofText_chars`). Doubles are left out: a value is
`Integral` if all its numbers are integers of 64 bits.

A text of two printed brackets and what is between them nests no deeper than the value it was
printed from, so reading it as a free value gives back the value with its entries sorted, which is
the value itself if it is a free value (`read_compact`, `read_pretty`).
-/

namespace BoundaryContract.Json

/-! ### Values without doubles -/

mutual

/-- All the numbers of the value are integers of 64 bits. -/
def Integral : Json → Prop
  | .number (.int z) => Fits64 z
  | .number (.float _) => False
  | .array items => IntegralItems items
  | .object entries => IntegralEntries entries
  | .null | .bool _ | .string _ => True

/-- All the numbers of the items are integers of 64 bits. -/
def IntegralItems : List Json → Prop
  | [] => True
  | item :: rest => Integral item ∧ IntegralItems rest

/-- All the numbers of the entries are integers of 64 bits. -/
def IntegralEntries : List (String × Json) → Prop
  | [] => True
  | (_, value) :: rest => Integral value ∧ IntegralEntries rest

end

/-! ### Blanks and beginnings -/

/-- Blanks, as a layout writes them. -/
def Blanks (g : List Char) : Prop := ∀ c ∈ g, isBlank c

variable {g s : List Char} {fuel : Nat}

theorem skipBlanks_append (hg : Blanks g) : skipBlanks (g ++ s) = skipBlanks s :=
  List.dropWhile_append_of_pos hg

theorem skipBlanks_eq_nil_iff : skipBlanks s = [] ↔ Blanks s := List.dropWhile_eq_nil_iff

theorem skipBlanks_cons {c : Char} (hc : isBlank c = false) : skipBlanks (c :: s) = c :: s :=
  List.dropWhile_cons_of_neg (by simp [hc])

/-- The text begins as a value does: not with a blank, a comma or a closing bracket. -/
def BeginsValue (s : List Char) : Prop :=
  ∃ c cs, s = c :: cs ∧ isBlank c = false ∧ c ≠ ',' ∧ c ≠ ']'

theorem BeginsValue.append (hs : BeginsValue s) (s' : List Char) : BeginsValue (s ++ s') := by
  obtain ⟨c, cs, rfl, hc⟩ := hs
  exact ⟨c, cs ++ s', rfl, hc⟩

theorem BeginsValue.skipBlanks (hs : BeginsValue s) : skipBlanks s = s := by
  obtain ⟨c, cs, rfl, hc, -⟩ := hs
  exact skipBlanks_cons hc

/-- A written integer begins with a minus sign or a digit. -/
theorem intChars_eq_cons (z : Int) : ∃ c cs, intChars z = c :: cs ∧ (c = '-' ∨ c.isDigit) := by
  cases z with
  | ofNat n =>
    obtain ⟨c, cs, h⟩ := List.exists_cons_of_ne_nil (Nat.toDigits_ne_nil (n := n) (b := 10))
    exact ⟨c, cs, h, .inr (Nat.isDigit_of_mem_toDigits (b := 10) (n := n) (by decide) (by decide)
      (by simp [h]))⟩
  | negSucc n => exact ⟨'-', _, rfl, .inl rfl⟩

/-- A character at which an integer begins is no blank, and none that stands between values. -/
theorem ne_of_sign_or_digit {c : Char} (hc : c = '-' ∨ c.isDigit) :
    isBlank c = false ∧ c ≠ ',' ∧ c ≠ ']' ∧ c ≠ '[' ∧ c ≠ '\x7b' := by
  obtain rfl | hc := hc
  · decide
  · have hne : ∀ c', c'.isDigit = false → c ≠ c' := by
      rintro c' hc' rfl
      simp [hc] at hc'
    have hblank : isBlank c = false := by
      simp [isBlank, hne ' ' rfl, hne '\n' rfl, hne '\t' rfl, hne '\r' rfl]
    exact ⟨hblank, hne _ rfl, hne _ rfl, hne _ rfl, hne _ rfl⟩

/-- Every printed value begins as values do. -/
theorem Layout.beginsValue_chars (L : Layout) (d : Nat) {json : Json} (h : json.Integral) :
    BeginsValue (L.chars d json) := by
  cases json with
  | null => exact ⟨'n', _, rfl, by decide⟩
  | bool b => cases b <;> exact ⟨_, _, rfl, by decide⟩
  | number n =>
    cases n with
    | int z =>
      obtain ⟨c, cs, hcs, hc⟩ := intChars_eq_cons z
      obtain ⟨hblank, hcomma, hbracket, -⟩ := ne_of_sign_or_digit hc
      exact ⟨c, cs, by rw [chars, numberChars, hcs], hblank, hcomma, hbracket⟩
    | float x => exact h.elim
  | string s => exact ⟨'"', _, rfl, by decide⟩
  | array items => cases items <;> exact ⟨'[', _, rfl, by decide⟩
  | object entries =>
    rcases entries with _ | ⟨⟨key, value⟩, rest⟩ <;> exact ⟨'\x7b', _, rfl, by decide⟩

/-- Blanks end a number, so what follows them need not. -/
theorem EndsNumber.append (hg : Blanks g) (hs : EndsNumber s) : EndsNumber (g ++ s) := by
  cases g with
  | nil => exact hs
  | cons c g =>
    rintro _ ⟨⟩
    have hc : isBlank c := hg c (.head _)
    simp only [isBlank, Bool.or_eq_true, beq_iff_eq] at hc
    obtain ((rfl | rfl) | rfl) | rfl := hc <;> decide

theorem EndsNumber.cons {c : Char} (hc : c = ',' ∨ c = ']' ∨ c = '\x7d') : EndsNumber (c :: s) := by
  rintro _ ⟨⟩
  obtain rfl | rfl | rfl := hc <;> decide

theorem EndsNumber.nil : EndsNumber [] := nofun

/-- What comes after an item is a comma or the end of its container. -/
theorem EndsNumber.items (L : Layout) (d : Nat) (items : List Json) (hs : EndsNumber s) :
    EndsNumber (L.items d items ++ s) := by
  cases items with
  | nil => exact hs
  | cons item rest => exact .cons (.inl rfl)

/-- What comes after an entry is a comma or the end of its container, too. -/
theorem EndsNumber.entries (L : Layout) (d : Nat) (entries : List (String × Json))
    (hs : EndsNumber s) : EndsNumber (L.entries d entries ++ s) := by
  rcases entries with _ | ⟨⟨key, value⟩, rest⟩
  · exact hs
  · exact .cons (.inl rfl)

/-! ### Steps of the reader -/

namespace Tree

/-- The tree holds the value, and the text goes on after it with `stop`. -/
structure Reads (tree : Tree) (json : Json) (stop : List Char) : Prop where
  holds : tree.Holds json
  stop : tree.stop? = some stop

variable {item : Json} {stop : List Char} {trees : List Tree} {closing : Closing}

theorem itemsOfText_first (hs : BeginsValue s) :
    itemsOfText (fuel + 1) true s = itemOfText fuel s := by
  obtain ⟨c, cs, rfl, -, hcomma, hbracket⟩ := hs
  rw [itemsOfText.eq_def]
  split <;> simp_all

/-- Every further item is read behind a comma and the blanks after it. -/
theorem itemsOfText_next (hg : Blanks g) (hs : BeginsValue s) :
    itemsOfText (fuel + 1) false (',' :: (g ++ s)) = itemOfText fuel s := by
  have hskip : skipBlanks (g ++ s) = s := by rw [skipBlanks_append hg, hs.skipBlanks]
  obtain ⟨c, cs, rfl, -, hcomma, hbracket⟩ := hs
  simp only [itemsOfText, hskip]
  split <;> simp_all

/-- An item that is read, and after it the rest of the items. -/
theorem itemOfText_holds {rest : List Json} (hitem : (ofText fuel s).Reads item stop)
    (hrest : ∃ trees, itemsOfText fuel false (skipBlanks stop) = (trees, closing) ∧
      ItemsHold trees rest) :
    ∃ trees, itemOfText (fuel + 1) s = (trees, closing) ∧ ItemsHold trees (item :: rest) := by
  obtain ⟨trees, htrees, hhold⟩ := hrest
  exact ⟨_, by simp only [itemOfText, hitem.stop, htrees], .cons hitem.holds hhold⟩

/-- An entry that begins with a written key. -/
theorem entryOfText_holds (key : String) {rest : List (String × Json)} (hg : Blanks g)
    (hs : BeginsValue s) (hvalue : (ofText fuel s).Reads item stop)
    (hrest : ∃ trees, entriesOfText fuel false (skipBlanks stop) = (trees, closing) ∧
      EntriesHold trees rest) :
    ∃ trees, entryOfText (fuel + 1) (key.toList.flatMap escapeChar ++ '"' :: ':' :: (g ++ s)) =
      (trees, closing) ∧ EntriesHold trees ((key, item) :: rest) := by
  obtain ⟨trees, htrees, hhold⟩ := hrest
  have hskip : skipBlanks (g ++ s) = s := by rw [skipBlanks_append hg, hs.skipBlanks]
  have hcolon : skipBlanks (':' :: (g ++ s)) = ':' :: (g ++ s) := skipBlanks_cons (by decide)
  refine ⟨(⟨.ok key, ':' :: (g ++ s)⟩, ofText fuel s) :: trees, ?_,
    .cons rfl hvalue.holds hhold⟩
  simp only [entryOfText, passString_escaped, stringContent_escaped, hcolon, hskip, hvalue.stop,
    htrees]

/-- Every further entry is read from its key, behind a comma and blanks. -/
theorem entriesOfText_next {text : List Char} (hg : Blanks g) :
    entriesOfText (fuel + 1) false (',' :: (g ++ '"' :: text)) = entryOfText fuel text := by
  have hskip : skipBlanks (g ++ '"' :: text) = '"' :: text := by
    rw [skipBlanks_append hg, skipBlanks_cons (by decide)]
  simp only [entriesOfText, hskip]
  rfl

/-- An array is read when its items are, up to the bracket. -/
theorem reads_array {items : List Json} (hitems : itemsOfText fuel true (skipBlanks s) =
    (trees, .closed stop)) (h : ItemsHold trees items) :
    (ofText (fuel + 1) ('[' :: s)).Reads (.array items) stop := by
  simp only [ofText, hitems]
  exact ⟨.array h, rfl⟩

/-- An object is read when its entries are, up to the brace. -/
theorem reads_object {trees : List (Key × Tree)} {entries : List (String × Json)}
    (hentries : entriesOfText fuel true (skipBlanks s) = (trees, .closed stop))
    (h : EntriesHold trees entries) :
    (ofText (fuel + 1) ('\x7b' :: s)).Reads (.object entries) stop := by
  simp only [ofText, hentries]
  exact ⟨.object h, rfl⟩

/-! ### Printed scalars -/

/-- What begins with no bracket is read as a scalar. -/
theorem ofText_scalar {c : Char} {cs : List Char} (hbracket : c ≠ '[') (hbrace : c ≠ '\x7b') :
    ofText (fuel + 1) (c :: cs) = ofScalar (c :: cs) := by
  rw [ofText.eq_def]
  split <;> simp_all

/-- The word is read in front of anything. -/
theorem reads_null (s : List Char) :
    (ofText (fuel + 1) ('n' :: 'u' :: 'l' :: 'l' :: s)).Reads .null s := by
  rw [ofText_scalar (by decide) (by decide)]
  exact ⟨.null, rfl⟩

/-- Both truth values are read in front of anything. -/
theorem reads_bool (b : Bool) (s : List Char) :
    (ofText (fuel + 1) (boolChars b ++ s)).Reads (.bool b) s := by
  cases b
  · show (ofText (fuel + 1) ('f' :: 'a' :: 'l' :: 's' :: 'e' :: s)).Reads _ _
    rw [ofText_scalar (by decide) (by decide)]
    exact ⟨.bool, rfl⟩
  · show (ofText (fuel + 1) ('t' :: 'r' :: 'u' :: 'e' :: s)).Reads _ _
    rw [ofText_scalar (by decide) (by decide)]
    exact ⟨.bool, rfl⟩

theorem quoteChars_append (text : String) (s : List Char) :
    quoteChars text ++ s = '"' :: (text.toList.flatMap escapeChar ++ '"' :: s) := by
  simp [quoteChars]

/-- A printed string shows its end by itself, so it is read in front of anything. -/
theorem reads_string (text : String) (s : List Char) :
    (ofText (fuel + 1) (quoteChars text ++ s)).Reads (.string text) s := by
  rw [quoteChars_append, ofText_scalar (by decide) (by decide), ofScalar, ofString,
    passString_escaped, stringContent_escaped]
  exact ⟨.string, rfl⟩

/-- A printed integer is read in front of what ends a number. -/
theorem reads_int {z : Int} (hz : Fits64 z) (hs : EndsNumber s) :
    (ofText (fuel + 1) (intChars z ++ s)).Reads (.number (.int z)) s := by
  obtain ⟨numeral, hscalar, hvalue⟩ := ofScalar_intChars hz hs
  obtain ⟨c, cs, hcs, hc⟩ := intChars_eq_cons z
  obtain ⟨-, -, -, hbracket, hbrace⟩ := ne_of_sign_or_digit hc
  have hscalar' : ofText (fuel + 1) (intChars z ++ s) = ofScalar (intChars z ++ s) := by
    rw [hcs, List.cons_append, ofText_scalar hbracket hbrace]
  rw [hscalar', hscalar]
  exact ⟨.number (hvalue s), rfl⟩

/-! ### Printed text -/

variable (L : Layout)

mutual

/-- The tree of a printed value holds the value, whatever the layout and the text after it. -/
theorem ofText_chars : ∀ (json : Json) (d fuel : Nat) (s : List Char), json.Integral →
    EndsNumber s → 3 * (L.chars d json).length ≤ fuel →
    (ofText fuel (L.chars d json ++ s)).Reads json s
  | json, d, 0, s, h, _, hfuel => by
    obtain ⟨c, cs, hcs, -⟩ := L.beginsValue_chars d h
    simp [hcs] at hfuel
  | .null, d, fuel + 1, s, _, _, _ => reads_null s
  | .bool b, d, fuel + 1, s, _, _, _ => reads_bool b s
  | .string text, d, fuel + 1, s, _, _, _ => reads_string text s
  | .number (.float x), d, fuel + 1, s, h, _, _ => h.elim
  | .number (.int z), d, fuel + 1, s, h, hs, _ => reads_int h hs
  | .array [], d, 1, s, _, _, hfuel => absurd hfuel (by simp [Layout.chars])
  | .array [], d, fuel + 2, s, _, _, hfuel => reads_array rfl .nil
  | .array (item :: rest), d, fuel + 1, s, ⟨hitem, hrest⟩, hs, hfuel => by
    rw [Layout.chars] at hfuel ⊢
    simp only [List.length_append, List.length_cons, List.append_assoc, List.cons_append,
      List.nil_append] at hfuel ⊢
    -- one step for the items and one for the first of them
    obtain ⟨f, rfl⟩ : ∃ f, fuel = f + 2 := ⟨fuel - 2, by omega⟩
    have hbegins := (L.beginsValue_chars (d + 1) hitem).append
      (L.items (d + 1) rest ++ (L.gap d ++ ']' :: s))
    have hends : EndsNumber (L.gap d ++ ']' :: s) :=
      .append (L.gap_blank d) (.cons (.inr (.inl rfl)))
    obtain ⟨trees, htrees, hhold⟩ := itemOfText_holds
      (ofText_chars item (d + 1) f _ hitem (hends.items L (d + 1) rest) (by omega))
      (itemsOfText_items rest (d + 1) f (L.gap d) s hrest (L.gap_blank d) (by omega))
    refine reads_array ?_ hhold
    rw [skipBlanks_append (L.gap_blank (d + 1)), hbegins.skipBlanks, itemsOfText_first hbegins,
      htrees]
  | .object [], d, 1, s, _, _, hfuel => absurd hfuel (by simp [Layout.chars])
  | .object [], d, fuel + 2, s, _, _, hfuel => reads_object rfl .nil
  | .object ((key, value) :: rest), d, fuel + 1, s, ⟨hvalue, hrest⟩, hs, hfuel => by
    rw [Layout.chars] at hfuel ⊢
    simp only [List.length_append, List.length_cons, List.append_assoc, List.cons_append,
      List.nil_append, quoteChars_append] at hfuel ⊢
    obtain ⟨f, rfl⟩ : ∃ f, fuel = f + 2 := ⟨fuel - 2, by omega⟩
    have hbegins := (L.beginsValue_chars (d + 1) hvalue).append
      (L.entries (d + 1) rest ++ (L.gap d ++ '\x7d' :: s))
    have hends : EndsNumber (L.gap d ++ '\x7d' :: s) :=
      .append (L.gap_blank d) (.cons (.inr (.inr rfl)))
    obtain ⟨trees, htrees, hhold⟩ := entryOfText_holds key L.colonGap_blank hbegins
      (ofText_chars value (d + 1) f _ hvalue (hends.entries L (d + 1) rest) (by omega))
      (entriesOfText_entries rest (d + 1) f (L.gap d) s hrest (L.gap_blank d) (by omega))
    refine reads_object ?_ hhold
    rw [skipBlanks_append (L.gap_blank (d + 1)), skipBlanks_cons (by decide)]
    exact htrees

/-- The trees of the further items of an array hold them. -/
theorem itemsOfText_items : ∀ (items : List Json) (d fuel : Nat) (g s : List Char),
    IntegralItems items → Blanks g → 3 * (L.items d items).length + 1 ≤ fuel →
    ∃ trees, itemsOfText fuel false (skipBlanks (L.items d items ++ (g ++ ']' :: s))) =
      (trees, .closed s) ∧ ItemsHold trees items
  | _, _, 0, _, _, _, _, hfuel => absurd hfuel (Nat.not_succ_le_zero _)
  | [], d, fuel + 1, g, s, _, hg, hfuel => by
    refine ⟨[], ?_, .nil⟩
    rw [Layout.items, List.nil_append, skipBlanks_append hg, skipBlanks_cons (by decide)]
    rfl
  | item :: rest, d, fuel + 1, g, s, ⟨hitem, hrest⟩, hg, hfuel => by
    rw [Layout.items] at hfuel ⊢
    simp only [List.length_append, List.length_cons, List.append_assoc, List.cons_append] at hfuel ⊢
    obtain ⟨f, rfl⟩ : ∃ f, fuel = f + 1 := ⟨fuel - 1, by omega⟩
    have hbegins := (L.beginsValue_chars d hitem).append (L.items d rest ++ (g ++ ']' :: s))
    have hends : EndsNumber (g ++ ']' :: s) := .append hg (.cons (.inr (.inl rfl)))
    rw [skipBlanks_cons (by decide), itemsOfText_next (L.gap_blank d) hbegins]
    exact itemOfText_holds (ofText_chars item d f _ hitem (hends.items L d rest) (by omega))
      (itemsOfText_items rest d f g s hrest hg (by omega))

/-- The trees of the further entries of an object hold them. -/
theorem entriesOfText_entries : ∀ (entries : List (String × Json)) (d fuel : Nat)
    (g s : List Char), IntegralEntries entries → Blanks g →
    3 * (L.entries d entries).length + 1 ≤ fuel →
    ∃ trees, entriesOfText fuel false (skipBlanks (L.entries d entries ++ (g ++ '\x7d' :: s))) =
      (trees, .closed s) ∧ EntriesHold trees entries
  | _, _, 0, _, _, _, _, hfuel => absurd hfuel (Nat.not_succ_le_zero _)
  | [], d, fuel + 1, g, s, _, hg, hfuel => by
    refine ⟨[], ?_, .nil⟩
    rw [Layout.entries, List.nil_append, skipBlanks_append hg, skipBlanks_cons (by decide)]
    rfl
  | (key, value) :: rest, d, fuel + 1, g, s, ⟨hvalue, hrest⟩, hg, hfuel => by
    rw [Layout.entries] at hfuel ⊢
    simp only [List.length_append, List.length_cons, List.append_assoc, List.cons_append,
      quoteChars_append] at hfuel ⊢
    obtain ⟨f, rfl⟩ : ∃ f, fuel = f + 1 := ⟨fuel - 1, by omega⟩
    have hbegins := (L.beginsValue_chars d hvalue).append (L.entries d rest ++ (g ++ '\x7d' :: s))
    have hends : EndsNumber (g ++ '\x7d' :: s) := .append hg (.cons (.inr (.inr rfl)))
    rw [skipBlanks_cons (by decide), entriesOfText_next (L.gap_blank d)]
    exact entryOfText_holds key L.colonGap_blank hbegins
      (ofText_chars value d f _ hvalue (hends.entries L d rest) (by omega))
      (entriesOfText_entries rest d f g s hrest hg (by omega))

end

end Tree

/-! ### Whole texts -/

/-- The printed text of a value, with blanks after it or not, has the tree of the value. -/
theorem Layout.parse_append (L : Layout) {json : Json} (h : json.Integral) (hs : Blanks s) :
    (Tree.parse (L.chars 0 json ++ s)).Reads json s := by
  have hends : EndsNumber s := by
    have happend := EndsNumber.append hs .nil
    rwa [List.append_nil] at happend
  rw [Tree.parse, ((L.beginsValue_chars 0 h).append s).skipBlanks]
  exact Tree.ofText_chars L json 0 _ s h hends (by rw [List.length_append]; omega)

/-- The tree of a whole printed text holds the value and leaves nothing. -/
theorem Layout.parse_chars (L : Layout) {json : Json} (h : json.Integral) :
    (Tree.parse (L.chars 0 json)).Reads json [] := by
  have hread := L.parse_append (s := []) h (List.forall_mem_nil _)
  rwa [List.append_nil] at hread

/-- What a decoder makes of a printed text, with blanks after it or not, is what it makes of any
tree that holds the value. -/
theorem Layout.decodeText_append {α : Type} (L : Layout) {json : Json} (h : json.Integral)
    (hs : Blanks s) {decode : Tree → Except Fault α} {x : α}
    (hdecode : ∀ tree : Tree, tree.Holds json → decode tree = .ok x) :
    decodeText decode (String.ofList (L.chars 0 json ++ s)) = .ok x := by
  obtain ⟨hholds, hstop⟩ := L.parse_append h hs
  simp only [decodeText, String.toList_ofList, hdecode _ hholds, hstop]
  rw [Option.getD_some, skipBlanks_eq_nil_iff.mpr hs]

/-- Whatever can be read off the tree of a value can be read off its printed text. -/
theorem Layout.decodeText_chars {α : Type} (L : Layout) {json : Json} (h : json.Integral)
    {decode : Tree → Except Fault α} {x : α}
    (hdecode : ∀ tree : Tree, tree.Holds json → decode tree = .ok x) :
    decodeText decode (String.ofList (L.chars 0 json)) = .ok x := by
  have hread := L.decodeText_append (s := []) h (List.forall_mem_nil _) hdecode
  rwa [List.append_nil] at hread

/-- A printed value is read back with its entries sorted, if it does not nest too deep. -/
theorem read_compact {json : Json} (h : json.Integral) (hd : json.depth ≤ maxDepth) :
    read json.compact = .ok json.sorted := by
  rw [compact_eq]
  exact Layout.compact.decodeText_chars h fun tree htree => htree.toJson hd

/-- Indented text is read back as the value with its entries sorted. -/
theorem read_pretty {json : Json} (h : json.Integral) (hd : json.depth ≤ maxDepth) :
    read json.pretty = .ok json.sorted := by
  rw [pretty_eq]
  exact Layout.pretty.decodeText_chars h fun tree htree => htree.toJson hd

/-- A free value without doubles that nests no deeper than a text may. -/
structure Printable (json : Json) : Prop where
  integral : json.Integral
  sorted : json.sorted = json
  shallow : json.depth ≤ maxDepth

namespace Printable

variable {json : Json}

/-- Reading the compact text of a value gives the value back. -/
theorem read_compact (h : json.Printable) : read json.compact = .ok json := by
  rw [Json.read_compact h.integral h.shallow, h.sorted]

/-- Reading the pretty text of a value gives the value back. -/
theorem read_pretty (h : json.Printable) : read json.pretty = .ok json := by
  rw [Json.read_pretty h.integral h.shallow, h.sorted]

end Printable

end BoundaryContract.Json
