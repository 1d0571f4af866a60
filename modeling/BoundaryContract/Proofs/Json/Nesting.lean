import BoundaryContract.Proofs.Json.RoundTrip

/-!
# How deep brackets nest

The nesting of a JSON text is told by its characters alone: brackets and braces count, unless they
stand inside a string. A printed text nests as deep as the value it was printed from, in every
layout (`nesting_chars`).
-/

namespace BoundaryContract.Json

/-- The number of brackets that are open at a time from here on, where `opened` of them are open
already and the text is inside a string or not. -/
def nestingFrom (opened : Nat) : (inString : Bool) → List Char → Nat
  | _, [] => opened
  | true, '\\' :: _ :: s => nestingFrom opened true s
  | true, c :: s => nestingFrom opened (c ≠ '"') s
  | false, c :: s =>
    if c = '"' then nestingFrom opened true s
    else if c = '[' ∨ c = '\x7b' then nestingFrom (opened + 1) false s
    else if c = ']' ∨ c = '\x7d' then max opened (nestingFrom (opened - 1) false s)
    else nestingFrom opened false s

/-- The number of brackets that are open at a time in a text. -/
def nesting (text : String) : Nat := nestingFrom 0 false text.toList

/-! ### Parts of a printed text -/

variable {n : Nat} {s : List Char}

/-- What is open already counts. -/
theorem le_nestingFrom (n : Nat) (inString : Bool) (s : List Char) :
    n ≤ nestingFrom n inString s := by
  fun_induction nestingFrom n inString s <;> omega

/-- Characters that are neither brackets nor quotes do not count. -/
def Unbracketed (cs : List Char) : Prop :=
  ∀ c ∈ cs, c ≠ '"' ∧ c ≠ '[' ∧ c ≠ '\x7b' ∧ c ≠ ']' ∧ c ≠ '\x7d'

/-- Characters that do not count may be left out. -/
theorem nestingFrom_append_of_unbracketed {cs : List Char} (h : Unbracketed cs) :
    nestingFrom n false (cs ++ s) = nestingFrom n false s := by
  induction cs with
  | nil => rfl
  | cons c cs ih =>
    obtain ⟨hquote, hopen, hopen', hclose, hclose'⟩ := h c (.head _)
    have hcs : Unbracketed cs := fun c' hc' => h c' (.tail _ hc')
    rw [List.cons_append, nestingFrom, if_neg hquote, if_neg (by simp [hopen, hopen']),
      if_neg (by simp [hclose, hclose']), ih hcs]

theorem unbracketed_of_blank {g : List Char} (h : ∀ c ∈ g, isBlank c) : Unbracketed g := by
  intro c hc
  have hblank := h c hc
  simp only [isBlank, Bool.or_eq_true, beq_iff_eq] at hblank
  obtain ((rfl | rfl) | rfl) | rfl := hblank <;> decide

theorem unbracketed_null : Unbracketed ['n', 'u', 'l', 'l'] := by
  simp [Unbracketed]

theorem unbracketed_boolChars (b : Bool) : Unbracketed (boolChars b) := by
  cases b <;> simp [Unbracketed, boolChars]

/-- Integers do not count. -/
theorem unbracketed_intChars (z : Int) : Unbracketed (intChars z) := by
  have hdigits : ∀ n, Unbracketed (Nat.toDigits 10 n) := by
    intro n c hc
    have hdigit : c.isDigit := Nat.isDigit_of_mem_toDigits (by decide) (by decide) hc
    refine ⟨?_, ?_, ?_, ?_, ?_⟩ <;> rintro rfl <;> cases hdigit
  cases z with
  | ofNat n => exact hdigits n
  | negSucc n =>
    intro c hc
    obtain rfl | hc := List.mem_cons.mp hc
    · decide
    · exact hdigits _ c hc

/-- Inside a string only a quote that is not escaped ends it. -/
theorem nestingFrom_of_ne_backslash {c : Char} (hc : c ≠ '\\') :
    nestingFrom n true (c :: s) = nestingFrom n (c ≠ '"') s := by
  rw [nestingFrom]
  rintro d rest rfl
  exact absurd rfl hc

/-- A written character leaves the reader inside the string. -/
theorem nestingFrom_escapeChar (c : Char) :
    nestingFrom n true (escapeChar c ++ s) = nestingFrom n true s := by
  have hhex : ∀ d, d < 16 → Nat.digitChar d ≠ '\\' ∧ Nat.digitChar d ≠ '"' := by decide
  rw [escapeChar.eq_def]
  split
  case h_8 hquote hbackslash _ _ _ _ _ =>
    split
    · next hc =>
      obtain ⟨h1, h1'⟩ := hhex (c.toNat / 16) (by omega)
      obtain ⟨h2, h2'⟩ := hhex (c.toNat % 16) (by omega)
      simp [controlEscape, nestingFrom, h1, h1', h2, h2']
    · show nestingFrom n true (c :: s) = nestingFrom n true s
      have hinside : decide (c ≠ '"') = true := decide_eq_true hquote
      rw [nestingFrom_of_ne_backslash hbackslash, hinside]
  all_goals simp [nestingFrom]

/-- A written string does not count, whatever brackets are in it. -/
theorem nestingFrom_quoteChars (text : String) :
    nestingFrom n false (quoteChars text ++ s) = nestingFrom n false s := by
  have hbody : ∀ cs : List Char,
      nestingFrom n true (cs.flatMap escapeChar ++ '"' :: s) = nestingFrom n false s := by
    intro cs
    induction cs with
    | nil => simp [nestingFrom]
    | cons c cs ih => rw [List.flatMap_cons, List.append_assoc, nestingFrom_escapeChar, ih]
  have hopen := hbody text.toList
  simpa [quoteChars, nestingFrom] using hopen

/-! ### Printed text -/

variable (L : Layout)

theorem nestingFrom_gap (d : Nat) :
    nestingFrom n false (L.gap d ++ s) = nestingFrom n false s :=
  nestingFrom_append_of_unbracketed (unbracketed_of_blank (L.gap_blank d))

/-- What stands between a key and its value does not count. -/
theorem nestingFrom_colon :
    nestingFrom n false (':' :: (L.colonGap ++ s)) = nestingFrom n false s := by
  have hcolon : Unbracketed (':' :: L.colonGap) := by
    intro c hc
    obtain rfl | hc := List.mem_cons.mp hc
    · decide
    · exact unbracketed_of_blank L.colonGap_blank c hc
  rw [← List.cons_append, nestingFrom_append_of_unbracketed hcolon]

theorem nestingFrom_comma (n : Nat) (s : List Char) :
    nestingFrom n false (',' :: s) = nestingFrom n false s := by
  have hcomma : Unbracketed [','] := by
    intro c hc
    rw [List.mem_singleton.mp hc]
    decide
  exact nestingFrom_append_of_unbracketed hcomma

/-- An opening bracket opens one more. -/
theorem nestingFrom_open {c : Char} (hc : c = '[' ∨ c = '\x7b') :
    nestingFrom n false (c :: s) = nestingFrom (n + 1) false s := by
  have hquote : c ≠ '"' := by obtain rfl | rfl := hc <;> decide
  rw [nestingFrom, if_neg hquote, if_pos hc]

/-- A closing bracket closes one, and what was open until then has counted. -/
theorem nestingFrom_close {c : Char} (hc : c = ']' ∨ c = '\x7d') :
    nestingFrom (n + 1) false (c :: s) = max (n + 1) (nestingFrom n false s) := by
  have hquote : c ≠ '"' := by obtain rfl | rfl := hc <;> decide
  have hopen : ¬(c = '[' ∨ c = '\x7b') := by obtain rfl | rfl := hc <;> decide
  rw [nestingFrom, if_neg hquote, if_neg hopen, if_pos hc, Nat.add_sub_cancel]

mutual

/-- A printed value opens as many brackets as it has containers inside each other, and closes all of
them. -/
theorem nestingFrom_chars : ∀ (json : Json) (d n : Nat) (s : List Char), json.Integral →
    nestingFrom n false (L.chars d json ++ s) = max (n + json.depth) (nestingFrom n false s)
  | .null, d, n, s, _ => by
    have hle := le_nestingFrom n false s
    rw [Layout.chars, nestingFrom_append_of_unbracketed unbracketed_null, depth]
    omega
  | .bool b, d, n, s, _ => by
    have hle := le_nestingFrom n false s
    rw [Layout.chars, nestingFrom_append_of_unbracketed (unbracketed_boolChars b), depth]
    omega
  | .number (.int z), d, n, s, _ => by
    have hle := le_nestingFrom n false s
    rw [Layout.chars, numberChars, nestingFrom_append_of_unbracketed (unbracketed_intChars z),
      depth]
    omega
  | .number (.float x), d, n, s, h => h.elim
  | .string text, d, n, s, _ => by
    have hle := le_nestingFrom n false s
    rw [Layout.chars, nestingFrom_quoteChars, depth]
    omega
  | .array [], d, n, s, _ => by
    have hle := le_nestingFrom n false s
    show nestingFrom n false ('[' :: ']' :: s) = max (n + 1) _
    rw [nestingFrom_open (.inl rfl), nestingFrom_close (.inl rfl)]
  | .array (item :: rest), d, n, s, ⟨hitem, hrest⟩ => by
    have hle := le_nestingFrom n false s
    simp only [Layout.chars, List.append_assoc, List.cons_append, List.nil_append]
    rw [nestingFrom_open (.inl rfl), nestingFrom_gap, nestingFrom_chars item _ _ _ hitem,
      nestingFrom_items rest _ _ _ hrest, nestingFrom_gap, nestingFrom_close (.inl rfl), depth,
      depthItems]
    omega
  | .object [], d, n, s, _ => by
    have hle := le_nestingFrom n false s
    show nestingFrom n false ('\x7b' :: '\x7d' :: s) = max (n + 1) _
    rw [nestingFrom_open (.inr rfl), nestingFrom_close (.inr rfl)]
  | .object ((key, value) :: rest), d, n, s, ⟨hvalue, hrest⟩ => by
    have hle := le_nestingFrom n false s
    simp only [Layout.chars, List.append_assoc, List.cons_append, List.nil_append]
    rw [nestingFrom_open (.inr rfl), nestingFrom_gap, nestingFrom_quoteChars, nestingFrom_colon,
      nestingFrom_chars value _ _ _ hvalue, nestingFrom_entries rest _ _ _ hrest, nestingFrom_gap,
      nestingFrom_close (.inr rfl), depth, depthEntries]
    omega

/-- The items behind the first one, each after a comma. -/
theorem nestingFrom_items : ∀ (items : List Json) (d n : Nat) (s : List Char),
    IntegralItems items →
    nestingFrom n false (L.items d items ++ s) = max (n + depthItems items) (nestingFrom n false s)
  | [], d, n, s, _ => by
    have hle := le_nestingFrom n false s
    rw [Layout.items, List.nil_append, depthItems]
    omega
  | item :: rest, d, n, s, ⟨hitem, hrest⟩ => by
    have hle := le_nestingFrom n false s
    simp only [Layout.items, List.append_assoc, List.cons_append]
    rw [nestingFrom_comma, nestingFrom_gap, nestingFrom_chars item _ _ _ hitem,
      nestingFrom_items rest _ _ _ hrest, depthItems]
    omega

/-- The entries behind the first one, each with its key. -/
theorem nestingFrom_entries : ∀ (entries : List (String × Json)) (d n : Nat) (s : List Char),
    IntegralEntries entries →
    nestingFrom n false (L.entries d entries ++ s) =
      max (n + depthEntries entries) (nestingFrom n false s)
  | [], d, n, s, _ => by
    have hle := le_nestingFrom n false s
    rw [Layout.entries, List.nil_append, depthEntries]
    omega
  | (key, value) :: rest, d, n, s, ⟨hvalue, hrest⟩ => by
    have hle := le_nestingFrom n false s
    simp only [Layout.entries, List.append_assoc, List.cons_append]
    rw [nestingFrom_comma, nestingFrom_gap, nestingFrom_quoteChars, nestingFrom_colon,
      nestingFrom_chars value _ _ _ hvalue, nestingFrom_entries rest _ _ _ hrest, depthEntries]
    omega

end

/-- A printed text nests as deep as its value. -/
theorem nesting_chars {json : Json} (h : json.Integral) :
    nesting (String.ofList (L.chars 0 json)) = json.depth := by
  have hchars := nestingFrom_chars L json 0 0 [] h
  rw [List.append_nil, nestingFrom] at hchars
  rw [nesting, String.toList_ofList, hchars]
  omega

end BoundaryContract.Json
