import BoundaryContract.Proofs.Json.RoundTrip
import Mathlib.Data.List.TakeWhile

/-!
# Texts that are read as scalars

Which texts are read as a given null, truth value, integer or string: those that hold a `Lexeme` of
it, with nothing but blanks around (`read_eq_plain`). An integer has one lexeme, the one that is
printed, and so have the words; a string has as many as there are ways to spell its characters
(`Spells`).

From right to left a lexeme is followed through the reader. From left to right the result is traced
back to what the reader has consumed.
-/

namespace BoundaryContract.Json

variable {s rest : List Char}

/-! ### Digits -/

theorem digitValue_lt {d : Char} (hd : d.isDigit) : digitValue d < 10 := by
  have hle : d.toNat ≤ 57 := (Char.isDigit_iff_toNat.mp hd).2
  show d.toNat - 48 < 10
  omega

/-- A digit is known from what it is worth. -/
theorem digitChar_digitValue {d : Char} (hd : d.isDigit) : Nat.digitChar (digitValue d) = d := by
  have hle : 48 ≤ d.toNat := (Char.isDigit_iff_toNat.mp hd).1
  apply Char.toNat_inj.mp
  rw [Nat.toNat_digitChar_of_lt_ten (digitValue_lt hd)]
  show 48 + (d.toNat - 48) = d.toNat
  omega

/-- Digits behind a positive number are appended to those that the number is written with. -/
theorem toDigits_ofDigitChars {n : Nat} (hn : 0 < n) {ds : List Char} (hds : ∀ d ∈ ds, d.isDigit) :
    Nat.toDigits 10 (Nat.ofDigitChars 10 ds n) = Nat.toDigits 10 n ++ ds := by
  induction ds generalizing n with
  | nil => rw [Nat.ofDigitChars_nil, List.append_nil]
  | cons d ds ih =>
    obtain ⟨hd, hds⟩ := List.forall_mem_cons.mp hds
    have hlast : Nat.toDigits 10 (10 * n + digitValue d) = Nat.toDigits 10 n ++ [d] := by
      rw [← Nat.toDigits_append_toDigits (by decide) hn (digitValue_lt hd),
        Nat.toDigits_of_lt_base (digitValue_lt hd), digitChar_digitValue hd]
    rw [Nat.ofDigitChars_cons]
    show Nat.toDigits 10 (Nat.ofDigitChars 10 ds (10 * n + digitValue d)) = _
    rw [ih (by omega) hds, hlast, List.append_assoc, List.singleton_append]

/-- The digits before the point are those that a number is written with. -/
theorem exists_of_readWhole {ds : List Char} (h : readWhole s = .ok (ds, rest)) :
    ∃ n, ds = Nat.toDigits 10 n ∧ s = ds ++ rest := by
  rw [readWhole.eq_def] at h
  split at h
  · cases h
  · next tail =>
    -- nothing but the end of the number comes after a zero in front
    have hzero : ['0'] = ds ∧ tail = rest := by
      cases tail with
      | nil => cases h; exact ⟨rfl, rfl⟩
      | cons c tail =>
        simp only at h
        split at h
        · cases h
        · cases h; exact ⟨rfl, rfl⟩
    obtain ⟨rfl, rfl⟩ := hzero
    exact ⟨0, rfl, rfl⟩
  · next c tail hc =>
    split at h
    · next hdigit =>
      cases h
      rw [List.takeWhile_cons_of_pos hdigit]
      -- the first digit is not zero, so there are no digits without a meaning
      have hpos : 0 < digitValue c := by
        have hle : 48 ≤ c.toNat := (Char.isDigit_iff_toNat.mp hdigit).1
        have hne : c.toNat ≠ 48 := fun heq => hc (Char.toNat_inj.mp heq)
        show 0 < c.toNat - 48
        omega
      refine ⟨Nat.ofDigitChars 10 (tail.takeWhile Char.isDigit) (digitValue c), ?_, ?_⟩
      · rw [toDigits_ofDigitChars hpos fun d hd => List.mem_takeWhile_imp hd,
          Nat.toDigits_of_lt_base (digitValue_lt hdigit), digitChar_digitValue hdigit,
          List.singleton_append]
      · rw [List.cons_append, List.dropWhile_cons_of_pos hdigit, List.takeWhile_append_dropWhile]
    · cases h

/-- Digits that are all taken in stay within the limit. -/
theorem of_absorb {limit n m : Nat} {ds : List Char} (h : absorb limit n ds = (m, []))
    (hn : n ≤ limit) : m = Nat.ofDigitChars 10 ds n ∧ m ≤ limit := by
  induction ds generalizing n with
  | nil =>
    cases h
    exact ⟨Nat.ofDigitChars_nil.symm, hn⟩
  | cons d ds ih =>
    rw [absorb] at h
    split at h
    · next hle =>
      obtain ⟨hm, hlimit⟩ := ih h hle
      rw [Nat.ofDigitChars_cons, Nat.mul_comm]
      exact ⟨hm, hlimit⟩
    · cases h

/-! ### Integers -/

/-- Only a number without fraction and exponent is an integer. -/
theorem of_value_eq_int {m : Numeral} {z : Int} (h : m.value rest = .ok (.int z)) :
    m.fraction = [] ∧ m.exponent = none ∧
      ∃ n, absorb maxUnsigned 0 m.whole = (n, []) ∧ integerValue m.negative n = .int z := by
  rw [Numeral.value] at h
  rcases habsorb : absorb maxUnsigned 0 m.whole with ⟨n, dropped⟩
  simp only [habsorb] at h
  split at h
  · next hplain =>
    simp only [Bool.and_eq_true, List.isEmpty_iff, Option.isNone_iff_eq_none] at hplain
    obtain ⟨⟨hfraction, hexponent⟩, rfl⟩ := hplain
    exact ⟨hfraction, hexponent, n, rfl, Except.ok.inj h⟩
  · rcases habsorb' : absorb maxUnsigned n m.fraction with ⟨significand, unread⟩
    simp only [habsorb'] at h
    -- whatever is rounded is a double
    split at h
    · split at h <;> cases h
    · split at h
      · split at h <;> cases h
      · split at h <;> cases h

/-- Where no fraction is read, nothing is consumed. -/
theorem of_readFraction_nil (h : readFraction s = .ok ([], rest)) : s = rest := by
  rw [readFraction.eq_def] at h
  split at h
  · split at h
    · cases h
    · next c tail =>
      split at h
      · next hdigit =>
        rw [List.takeWhile_cons_of_pos hdigit] at h
        cases h
      · cases h
  · cases h
    rfl

/-- Where no exponent is read, nothing is consumed. -/
theorem of_readExponent_none (h : readExponent s = .ok (none, rest)) : s = rest := by
  rw [readExponent.eq_def] at h
  split at h
  · next c tail =>
    split at h
    · rcases hsign : readSign tail with ⟨negative, digits⟩
      simp only [hsign] at h
      split at h
      · cases h
      · split at h <;> cases h
    · cases h
      rfl
  · cases h
    rfl

/-- A number without fraction and exponent ends with its digits. -/
theorem exists_of_readNumeral {negative : Bool} {m : Numeral}
    (h : readNumeral negative s = .ok (m, rest)) (hfraction : m.fraction = [])
    (hexponent : m.exponent = none) :
    ∃ n, m = ⟨negative, Nat.toDigits 10 n, [], none⟩ ∧ s = Nat.toDigits 10 n ++ rest := by
  rw [readNumeral] at h
  cases hw : readWhole s with
  | error gap => rw [hw] at h; cases h
  | ok whole =>
    obtain ⟨ds, s₁⟩ := whole
    cases hf : readFraction s₁ with
    | error gap => simp only [hw, hf, bind, Except.bind] at h; cases h
    | ok fraction =>
      obtain ⟨fs, s₂⟩ := fraction
      cases he : readExponent s₂ with
      | error gap => simp only [hw, hf, he, bind, Except.bind] at h; cases h
      | ok exponent =>
        obtain ⟨e, s₃⟩ := exponent
        simp only [hw, hf, he, bind, Except.bind] at h
        cases h
        simp only at hfraction hexponent
        subst hfraction hexponent
        obtain ⟨n, rfl, rfl⟩ := exists_of_readWhole hw
        rw [of_readFraction_nil hf, of_readExponent_none he]
        exact ⟨n, rfl, rfl⟩

/-- The integer of a sign and a natural number is within 64 bits and printed as these are. -/
theorem of_integerValue {negative : Bool} {n : Nat} {z : Int} (hn : n ≤ maxUnsigned)
    (h : integerValue negative n = .int z) :
    Fits64 z ∧ intChars z = (if negative then ['-'] else []) ++ Nat.toDigits 10 n := by
  have hmin : Int64.minValue.toInt = -(2 ^ 63 : Int) := by decide
  have hsize : (UInt64.size : Int) = 2 ^ 64 := rfl
  have hmax : maxUnsigned = 2 ^ 64 - 1 := rfl
  rw [integerValue] at h
  split at h
  · next hnegative =>
    split at h
    · next hrange =>
      rw [Nat.pow_eq] at hrange
      cases h
      refine ⟨⟨by omega, by omega⟩, ?_⟩
      obtain ⟨k, rfl⟩ : ∃ k, n = k + 1 := ⟨n - 1, by omega⟩
      rw [if_pos hnegative]
      rfl
    · cases h
  · next hnegative =>
    cases h
    refine ⟨⟨by omega, by omega⟩, ?_⟩
    rw [if_neg hnegative]
    rfl

/-- A number that is an integer is written as that integer is printed. -/
theorem of_ofNumber {negative : Bool} {m : Numeral} {start start' : List Char} {z : Int}
    (h : Tree.ofNumber negative start s = .number m start' rest)
    (hvalue : m.value rest = .ok (.int z)) :
    Fits64 z ∧ (if negative then ['-'] else []) ++ s = intChars z ++ rest := by
  rw [Tree.ofNumber] at h
  cases hnumeral : readNumeral negative s with
  | error gap => rw [hnumeral] at h; cases h
  | ok read =>
    obtain ⟨m', rest'⟩ := read
    rw [hnumeral] at h
    cases h
    obtain ⟨hfraction, hexponent, w, habsorb, hint⟩ := of_value_eq_int hvalue
    obtain ⟨n, rfl, rfl⟩ := exists_of_readNumeral hnumeral hfraction hexponent
    obtain ⟨rfl, hw⟩ := of_absorb habsorb (Nat.zero_le _)
    rw [Nat.ofDigitChars_ten_toDigits] at hw hint
    obtain ⟨hfits, hchars⟩ := of_integerValue hw hint
    exact ⟨hfits, by rw [hchars, List.append_assoc]⟩

/-! ### Strings -/

/-- Between its quotes, a string may be spelled like this. A character stands for itself, unless it
is a control character, or is written as an escape, which for one beyond the first plane is the two
halves of its surrogate pair. A half alone spells nothing. -/
inductive Spells : List Char → List Char → Prop
  | nil : Spells [] []
  | plain {c : Char} {cs text : List Char} (hc : 0x20 ≤ c.toNat) (hquote : c ≠ '"')
    (hescape : c ≠ '\\') (h : Spells cs text) : Spells (c :: cs) (c :: text)
  | letter {x c : Char} {cs text : List Char} (hx : simpleEscape? x = some c) (h : Spells cs text) :
    Spells ('\\' :: x :: cs) (c :: text)
  | code {a b c d : Char} {n : Nat} {cs text : List Char} (hn : hexFour? a b c d = some n)
    (hlow : isLowSurrogate n = false) (hhigh : isHighSurrogate n = false) (h : Spells cs text) :
    Spells ('\\' :: 'u' :: a :: b :: c :: d :: cs) (.ofNat n :: text)
  | pair {a b c d a' b' c' d' : Char} {n n' : Nat} {cs text : List Char}
    (hn : hexFour? a b c d = some n) (hhigh : isHighSurrogate n)
    (hn' : hexFour? a' b' c' d' = some n') (hlow : isLowSurrogate n') (h : Spells cs text) :
    Spells ('\\' :: 'u' :: a :: b :: c :: d :: '\\' :: 'u' :: a' :: b' :: c' :: d' :: cs)
      (pairChar n n' :: text)

/-- The two halves of a pair are told apart. -/
theorem not_isLowSurrogate_of_high {n : Nat} (h : isHighSurrogate n) :
    isLowSurrogate n = false := by
  simp only [isHighSurrogate, isLowSurrogate, Bool.and_eq_true, decide_eq_true_eq,
    Bool.and_eq_false_iff, decide_eq_false_iff_not] at *
  omega

/-- What is spelled is read. -/
theorem Spells.readString {content text : List Char} (h : Spells content text) (rest : List Char) :
    readString (content ++ '"' :: rest) = .ok (text, rest) := by
  induction h with
  | nil => rw [List.nil_append, Json.readString]
  | plain hc hquote hescape _ ih =>
    rw [List.cons_append, Json.readString, if_neg (by omega), ih, consRead]
    · exact hquote
    · exact hescape
  | @letter x c cs text hx _ ih =>
    have hu : x ≠ 'u' := by
      rintro rfl
      cases hx
    simp only [List.cons_append, Json.readString, hx, ih, consRead]
  | code hn hlow hhigh _ ih =>
    simp only [List.cons_append, Json.readString, hn, hlow, hhigh, ih, consRead,
      Bool.false_eq_true, if_false]
  | pair hn hhigh hn' hlow _ ih =>
    simp only [List.cons_append, Json.readString, hn, not_isLowSurrogate_of_high hhigh, hhigh, hn',
      hlow, ih, consRead, Bool.false_eq_true, if_false, if_true]

/-- A character in front of what is read was put there. -/
theorem of_consRead {c : Char} {r : Except Fault (List Char × List Char)} {text : List Char}
    (h : consRead c r = .ok (text, rest)) : ∃ cs, text = c :: cs ∧ r = .ok (cs, rest) := by
  cases r with
  | error fault => cases h
  | ok read =>
    obtain ⟨cs, rest'⟩ := read
    cases h
    exact ⟨cs, rfl, rfl⟩

/-- What is read is spelled, up to a closing quote, and is passed over as well. -/
theorem exists_spells {text : List Char} (h : readString s = .ok (text, rest)) :
    ∃ content, s = content ++ '"' :: rest ∧ Spells content text ∧ passString s = .ok rest := by
  fun_induction readString s generalizing text
  case case2 =>
    cases h
    exact ⟨[], rfl, .nil, by rw [passString]⟩
  -- a pair of escapes, one escape by number, one by letter, and a character as it is
  case case7 a b c d n hn hlow hhigh a' b' c' d' tail n' hn' hlow' ih =>
    obtain ⟨text, rfl, htail⟩ := of_consRead h
    obtain ⟨content, rfl, hcontent, hpass⟩ := ih htail
    refine ⟨_, ?_, .pair hn hhigh hn' hlow' hcontent, ?_⟩
    · rfl
    · simp only [passString, hn, hn', hpass]
  case case10 a b c d tail n hn hlow hhigh ih =>
    obtain ⟨text, rfl, htail⟩ := of_consRead h
    obtain ⟨content, rfl, hcontent, hpass⟩ := ih htail
    refine ⟨_, ?_, .code hn (Bool.eq_false_iff.mpr hlow) (Bool.eq_false_iff.mpr hhigh) hcontent, ?_⟩
    · rfl
    · simp only [passString, hn, hpass]
  case case12 x tail hu c hx ih =>
    obtain ⟨text, rfl, htail⟩ := of_consRead h
    obtain ⟨content, rfl, hcontent, hpass⟩ := ih htail
    refine ⟨'\\' :: x :: content, rfl, .letter hx hcontent, ?_⟩
    simp only [passString, hx, hpass]
  case case15 c tail hquote hescape hc ih =>
    obtain ⟨text, rfl, htail⟩ := of_consRead h
    obtain ⟨content, rfl, hcontent, hpass⟩ := ih htail
    refine ⟨c :: content, rfl, .plain (Nat.not_lt.mp hc) hquote hescape hcontent, ?_⟩
    rw [passString, if_neg hc, hpass]
    · exact hquote
    · exact hescape
  all_goals cases h

/-- The tree of a string that is read ends where the string does. -/
theorem of_ofString {start start' : List Char} {text : String}
    (h : Tree.ofString start s = .string (.ok text) start' rest) :
    ∃ content, s = content ++ '"' :: rest ∧ Spells content text.toList := by
  rw [Tree.ofString] at h
  cases hpass : passString s with
  | error fault => rw [hpass] at h; cases h
  | ok stop =>
    rw [hpass] at h
    simp only [Tree.string.injEq] at h
    obtain ⟨hcontent, rfl, rfl⟩ := h
    rw [stringContent] at hcontent
    cases hread : readString s with
    | error fault => rw [hread] at hcontent; cases hcontent
    | ok read =>
      obtain ⟨cs, stop'⟩ := read
      rw [hread] at hcontent
      cases hcontent
      obtain ⟨content, rfl, hspells, hpass'⟩ := exists_spells hread
      rw [hpass, Except.ok.injEq] at hpass'
      rw [String.toList_ofList, hpass']
      exact ⟨content, rfl, hspells⟩

/-! ### Words -/

/-- A word that is read stands there letter by letter. -/
theorem of_readWord {word : List Char} (h : readWord word s = .ok rest) : s = word ++ rest := by
  induction word generalizing s with
  | nil =>
    cases h
    rfl
  | cons w word ih =>
    cases s with
    | nil => cases h
    | cons c s =>
      rw [readWord] at h
      split at h
      · next hw => rw [hw, ih h, List.cons_append]
      · cases h

/-! ### Scalars -/

/-- A value that is neither a container nor a double. -/
def IsPlain : Json → Prop
  | .null | .bool _ | .string _ | .number (.int _) => True
  | .number (.float _) | .array _ | .object _ => False

namespace IsPlain

variable {json : Json}

theorem depth_eq_zero (h : json.IsPlain) : json.depth = 0 := by
  cases json with
  | array items => exact h.elim
  | object entries => exact h.elim
  | _ => rfl

theorem sorted (h : json.IsPlain) : json.sorted = json := by
  cases json with
  | array items => exact h.elim
  | object entries => exact h.elim
  | _ => rfl

end IsPlain

/-- The text of a plain value. -/
inductive Lexeme : List Char → Json → Prop
  | null : Lexeme ['n', 'u', 'l', 'l'] .null
  | bool (b : Bool) : Lexeme (boolChars b) (.bool b)
  | int {z : Int} (hz : Fits64 z) : Lexeme (intChars z) (.number (.int z))
  | string {content : List Char} {text : String} (h : Spells content text.toList) :
    Lexeme ('"' :: content ++ ['"']) (.string text)

namespace Tree

variable {tree : Tree} {d fuel : Nat} {json : Json}

/-- The text is that of the value and what the tree leaves after it. -/
def Spans (tree : Tree) (s : List Char) (json : Json) : Prop :=
  ∃ lexeme stop, Lexeme lexeme json ∧ s = lexeme ++ stop ∧ tree.stop? = some stop

/-- A tree of a word spans the word. -/
theorem spans_ofWord {leaf : List Char → Tree} {word start : List Char} {c : Char} {v : Json}
    (hleaf : ∀ stop, (leaf stop).toJson d = .ok v ∧ (leaf stop).stop? = some stop)
    (hv : Lexeme (c :: word) v) (h : (ofWord leaf word start s).toJson d = .ok json) :
    (ofWord leaf word start s).Spans (c :: s) json := by
  rw [ofWord] at h ⊢
  cases hword : readWord word s with
  | error fault =>
    simp only [hword, toJson] at h
    cases h
  | ok stop =>
    simp only [hword, hleaf] at h ⊢
    cases h
    exact ⟨c :: word, stop, hv, by rw [of_readWord hword, List.cons_append], (hleaf stop).2⟩

/-- A tree of an integer spans its sign and its digits. -/
theorem spans_ofNumber {negative : Bool} {start : List Char} (hjson : json.IsPlain)
    (h : (ofNumber negative start s).toJson d = .ok json) :
    (ofNumber negative start s).Spans ((if negative then ['-'] else []) ++ s) json := by
  cases hnumber : ofNumber negative start s with
  | number m start' stop =>
    rw [hnumber, toJson] at h
    cases hvalue : m.value stop with
    | error fault => rw [hvalue] at h; cases h
    | ok n =>
      rw [hvalue] at h
      cases h
      cases n with
      | int z =>
        obtain ⟨hfits, hchars⟩ := of_ofNumber hnumber hvalue
        exact ⟨intChars z, stop, .int hfits, hchars, rfl⟩
      | float x => exact hjson.elim
  | broken gap start' => rw [hnumber, toJson] at h; cases h
  | _ =>
    rw [ofNumber] at hnumber
    split at hnumber <;> cases hnumber

/-- A tree of a string spans it with its quotes. -/
theorem spans_ofString {start : List Char} (h : (ofString start s).toJson d = .ok json) :
    (ofString start s).Spans ('"' :: s) json := by
  cases hstring : ofString start s with
  | string content start' stop =>
    rw [hstring, toJson] at h
    cases content with
    | error fault => cases h
    | ok text =>
      cases h
      obtain ⟨content, rfl, hspells⟩ := of_ofString hstring
      exact ⟨_, stop, .string hspells, by simp, rfl⟩
  | broken gap start' => rw [hstring, toJson] at h; cases h
  | _ =>
    rw [ofString] at hstring
    split at hstring <;> cases hstring

/-- A scalar that is read is written in front of what its tree leaves. -/
theorem spans_ofScalar (hjson : json.IsPlain) (h : (ofScalar s).toJson d = .ok json) :
    (ofScalar s).Spans s json := by
  rw [ofScalar.eq_def] at h ⊢
  cases s with
  | nil => cases h
  | cons c s =>
    simp only at h ⊢
    split at h
    · exact spans_ofWord (fun stop => ⟨rfl, rfl⟩) .null h
    · exact spans_ofWord (fun stop => ⟨rfl, rfl⟩) (.bool true) h
    · exact spans_ofWord (fun stop => ⟨rfl, rfl⟩) (.bool false) h
    · exact spans_ofNumber hjson h
    · exact spans_ofString h
    · split at h
      · next hdigit =>
        rw [if_pos hdigit]
        exact spans_ofNumber hjson h
      · cases h

/-- What is read from brackets is not plain. -/
theorem not_isPlain_of_array {items : List Tree} {closing : Closing} {start : List Char}
    (h : (array items closing start).toJson d = .ok json) : ¬ json.IsPlain := by
  cases d with
  | zero => cases h
  | succ d =>
    rw [toJson] at h
    cases hitems : itemsToJson d items with
    | error fault => rw [hitems] at h; cases h
    | ok values =>
      simp only [hitems, bind, Except.bind] at h
      split at h
      · cases h
      · cases h
        exact id

/-- What is read from braces is not plain. -/
theorem not_isPlain_of_object {entries : List (Key × Tree)} {closing : Closing}
    {start : List Char} (h : (object entries closing start).toJson d = .ok json) :
    ¬ json.IsPlain := by
  cases d with
  | zero => cases h
  | succ d =>
    rw [toJson] at h
    cases hentries : entriesToJson d entries with
    | error fault => rw [hentries] at h; cases h
    | ok values =>
      simp only [hentries, bind, Except.bind] at h
      split at h
      · cases h
      · cases h
        exact id

/-- A text with a bracket in front is none of a scalar. -/
theorem spans_ofText (hjson : json.IsPlain) (h : (ofText (fuel + 1) s).toJson d = .ok json) :
    (ofText (fuel + 1) s).Spans s json := by
  rw [ofText.eq_def] at h ⊢
  simp only at h ⊢
  split at h
  · exact absurd hjson (not_isPlain_of_array h)
  · exact absurd hjson (not_isPlain_of_object h)
  · exact spans_ofScalar hjson h

end Tree

/-! ### Whole texts -/

/-- The text is this value with blanks around it. -/
def Lexeme.Within (json : Json) (text : String) : Prop :=
  ∃ before lexeme after, Blanks before ∧ Blanks after ∧ Lexeme lexeme json ∧
    text.toList = before ++ (lexeme ++ after)

/-- A text is read when its tree is, and only blanks are left. -/
theorem read_eq_ok {text : String} {json : Json} : read text = .ok json ↔
    (Tree.parse text.toList).toJson maxDepth = .ok json ∧
      Blanks ((Tree.parse text.toList).stop?.getD []) := by
  rw [read, decodeText, ← skipBlanks_eq_nil_iff]
  cases hjson : (Tree.parse text.toList).toJson maxDepth with
  | error fault => simp
  | ok v =>
    simp only
    split
    · next hskip => simp [hskip]
    · next hskip =>
      constructor
      · intro h
        cases h
      · rintro ⟨-, h⟩
        exact absurd h hskip

namespace Lexeme

variable {lexeme after : List Char} {json : Json}

theorem isPlain (h : Lexeme lexeme json) : json.IsPlain := by
  cases h <;> trivial

/-- A lexeme begins as values do. -/
theorem beginsValue (h : Lexeme lexeme json) : BeginsValue lexeme := by
  cases h with
  | null => exact ⟨'n', _, rfl, by decide⟩
  | bool b => cases b <;> exact ⟨_, _, rfl, by decide⟩
  | @int z hz =>
    obtain ⟨c, cs, hcs, hc⟩ := intChars_eq_cons z
    obtain ⟨hblank, hcomma, hbracket, -⟩ := ne_of_sign_or_digit hc
    exact ⟨c, cs, hcs, hblank, hcomma, hbracket⟩
  | string h => exact ⟨'"', _, rfl, by decide⟩

/-- The text of a value is read as the value, in front of anything that could not be taken for more
of it. -/
theorem reads (h : Lexeme lexeme json) (hafter : EndsNumber after) (fuel : Nat) :
    (Tree.ofText (fuel + 1) (lexeme ++ after)).Reads json after := by
  cases h with
  | null => exact Tree.reads_null after
  | bool b => exact Tree.reads_bool b after
  | int hz => exact Tree.reads_int hz hafter
  | @string content text h =>
    have hread := h.readString after
    obtain ⟨-, -, -, hpass⟩ := exists_spells hread
    have hcontent : stringContent (content ++ '"' :: after) = .ok text := by
      simp only [stringContent, hread, String.ofList_toList]
    have hchars : '"' :: content ++ ['"'] ++ after = '"' :: (content ++ '"' :: after) := by simp
    rw [hchars, Tree.ofText_scalar (by decide) (by decide), Tree.ofScalar, Tree.ofString, hpass,
      hcontent]
    exact ⟨.string, rfl⟩

end Lexeme

/-- A plain value is read from its texts and from no others. -/
theorem read_eq_plain {text : String} {json : Json} (hjson : json.IsPlain) :
    read text = .ok json ↔ Lexeme.Within json text := by
  rw [read_eq_ok, Tree.parse]
  constructor
  · rintro ⟨hread, hafter⟩
    obtain ⟨lexeme, after, hlexeme, htext, hstop⟩ := Tree.spans_ofText hjson hread
    rw [hstop, Option.getD_some] at hafter
    refine ⟨text.toList.takeWhile isBlank, lexeme, after, ?_, hafter, hlexeme, ?_⟩
    · exact fun c hc => List.mem_takeWhile_imp hc
    · rw [← htext, skipBlanks, List.takeWhile_append_dropWhile]
  · rintro ⟨before, lexeme, after, hbefore, hafter, hlexeme, htext⟩
    have hends : EndsNumber after := by
      have happend := EndsNumber.append hafter .nil
      rwa [List.append_nil] at happend
    have hskip : skipBlanks text.toList = lexeme ++ after := by
      rw [htext, skipBlanks_append hbefore, (hlexeme.beginsValue.append after).skipBlanks]
    obtain ⟨hholds, hstop⟩ := hlexeme.reads hends (3 * text.toList.length + 2)
    rw [hskip]
    refine ⟨?_, ?_⟩
    · have hdepth : json.depth ≤ maxDepth := by
        rw [hjson.depth_eq_zero]
        exact Nat.zero_le _
      rw [hholds.toJson hdepth, hjson.sorted]
    · rw [hstop]
      exact hafter

/-- A lexeme among blanks is read as its value. -/
theorem Lexeme.Within.read {text : String} {json : Json} (h : Lexeme.Within json text) :
    read text = .ok json := by
  obtain ⟨-, lexeme, -, -, -, hlexeme, -⟩ := id h
  exact (read_eq_plain hlexeme.isPlain).mpr h

end BoundaryContract.Json
