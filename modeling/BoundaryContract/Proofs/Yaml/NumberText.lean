import BoundaryContract.Proofs.Json.RoundTrip
import BoundaryContract.Proofs.Yaml.Plain

/-!
# Integers in YAML text

The digits of an integer may stand as they are (`allowsPlain_intChars`), and a string of the same
characters may not, since it would be taken for the integer (`isMistakable_intChars`).
-/

namespace BoundaryContract.Yaml

variable {n : Nat} {ch : Char} {s : List Char} {ended : Bool}

/-! ### Characters of numbers -/

/-- A digit or a minus sign. -/
def IsNumeric (ch : Char) : Prop := ch.isDigit ∨ ch = '-'

theorem ne_of_isDigit (h : ch.isDigit) {d : Char} (hd : d.isDigit = false) : ch ≠ d := by
  rintro rfl
  rw [h] at hd
  cases hd

/-- What a number is written with can be printed. -/
theorem IsNumeric.isPrintable (h : IsNumeric ch) : isPrintable ch := by
  obtain hdigit | rfl := h
  · obtain ⟨hlow, hhigh⟩ := Char.isDigit_iff_toNat.mp hdigit
    have hlow : 48 ≤ ch.toNat := hlow
    have hhigh : ch.toNat ≤ 57 := hhigh
    simp only [Yaml.isPrintable, Bool.or_eq_true, Bool.and_eq_true, decide_eq_true_eq]
    omega
  · decide

/-- What a number is written with is a digit or the minus sign. -/
theorem IsNumeric.ne (h : IsNumeric ch) {d : Char} (hd : d.isDigit = false) (hdash : d ≠ '-') :
    ch ≠ d := by
  obtain hdigit | rfl := h
  · exact ne_of_isDigit hdigit hd
  · exact hdash.symm

theorem IsNumeric.isBreak (h : IsNumeric ch) : isBreak ch = false := by
  simp only [Yaml.isBreak, Bool.or_eq_false_iff, beq_eq_false_iff_ne]
  refine ⟨⟨⟨⟨?_, ?_⟩, ?_⟩, ?_⟩, ?_⟩
  all_goals exact h.ne (by decide) (by decide)

theorem IsNumeric.isSpace (h : IsNumeric ch) : Allowance.isSpace ch = false :=
  beq_eq_false_iff_ne.mpr (h.ne (by decide) (by decide))

/-- Nothing in a number ends a plain scalar. -/
theorem badInside_of_numeric (hs : ∀ ch ∈ s, IsNumeric ch) :
    Allowance.badInside ended s = false := by
  induction s generalizing ended with
  | nil => rfl
  | cons ch s ih =>
    obtain ⟨hch, hs⟩ := List.forall_mem_cons.mp hs
    have hcolon : ch ≠ ':' := hch.ne (by decide) (by decide)
    have hnumber : ch ≠ '#' := hch.ne (by decide) (by decide)
    rw [Allowance.badInside, ih hs]
    simp [hcolon, hnumber]

/-- No two characters of a number are a pair that a plain scalar must not have. -/
theorem hasPair_of_numeric {first second : Char → Bool}
    (hfirst : ∀ ch, IsNumeric ch → first ch = false) (hs : ∀ ch ∈ s, IsNumeric ch) :
    Allowance.hasPair first second s = false := by
  induction s with
  | nil => rfl
  | cons a s ih =>
    obtain ⟨ha, hs⟩ := List.forall_mem_cons.mp hs
    cases s with
    | nil => rfl
    | cons b s =>
      rw [Allowance.hasPair, hfirst a ha, ih hs]
      rfl

/-- Digits and minus signs may stand plainly, if they neither begin like structure nor like a
marker. -/
theorem allowsPlain_of_numeric (hne : s ≠ []) (hs : ∀ ch ∈ s, IsNumeric ch)
    (hmarks : Allowance.marksDocument s = false) (hstart : Allowance.badStart s = false) :
    AllowsPlain s := by
  refine ⟨hne, ?_⟩
  obtain ⟨ch, cs, rfl⟩ := List.exists_cons_of_ne_nil hne
  obtain ⟨hch, hcs⟩ := List.forall_mem_cons.mp hs
  have hlast : IsNumeric ((ch :: cs).getLast?.getD ch) := by
    rw [List.getLast?_eq_some_getLast (List.cons_ne_nil ch cs), Option.getD_some]
    exact hs _ (List.getLast_mem _)
  have hspecial : (ch :: cs).any (fun c => !isPrintable c) = false := by
    rw [List.any_eq_false]
    intro c hc
    simp [(hs c hc).isPrintable]
  have hbreaks : (ch :: cs).any isBreak = false := by
    rw [List.any_eq_false]
    intro c hc
    simp [(hs c hc).isBreak]
  have hbreakSpace : Allowance.hasPair isBreak Allowance.isSpace (ch :: cs) = false :=
    hasPair_of_numeric (fun _ => IsNumeric.isBreak) hs
  have hspaceBreak : Allowance.hasPair Allowance.isSpace isBreak (ch :: cs) = false :=
    hasPair_of_numeric (fun _ => IsNumeric.isSpace) hs
  simp only [Allowance.ofContent, hmarks, hstart, badInside_of_numeric hcs, hch.isSpace,
    hch.isBreak, hlast.isSpace, hlast.isBreak, hspecial, hbreaks, hbreakSpace, hspaceBreak,
    Bool.or_false, Bool.not_false]

/-! ### Digits -/

/-- No digit is an indicator at the beginning of a scalar. -/
theorem startsIndicator_of_isDigit (h : ch.isDigit) : Allowance.startsIndicator ch = false := by
  have hnone : "#,[]\x7b\x7d&*!|>'\"%@`".toList.all (fun d => !d.isDigit) = true := by decide
  rw [Allowance.startsIndicator]
  by_contra hmem
  rw [Bool.not_eq_false, List.contains_iff_mem] at hmem
  have hch := List.all_eq_true.mp hnone ch hmem
  rw [h] at hch
  cases hch

theorem isDigit_of_mem_digits (h : ch ∈ Nat.toDigits 10 n) : ch.isDigit :=
  Nat.isDigit_of_mem_toDigits (by decide) (by decide) h

/-- A number has at least one digit. -/
theorem exists_toDigits (n : Nat) : ∃ ch cs, Nat.toDigits 10 n = ch :: cs ∧ ch.isDigit ∧
    ∀ d ∈ cs, d.isDigit := by
  obtain ⟨ch, cs, hcs⟩ := List.exists_cons_of_ne_nil (Nat.toDigits_ne_nil (n := n) (b := 10))
  have hdigits : ∀ d ∈ ch :: cs, d.isDigit := fun d hd => isDigit_of_mem_digits (hcs ▸ hd)
  obtain ⟨hch, hds⟩ := List.forall_mem_cons.mp hdigits
  exact ⟨ch, cs, hcs, hch, hds⟩

theorem endsWord_of_isDigit (h : ch.isDigit) : endsWord (ch :: s) = false := by
  have hspace : ch ≠ ' ' := ne_of_isDigit h (by decide)
  have htab : ch ≠ '\t' := ne_of_isDigit h (by decide)
  have hnull : ch ≠ '\x00' := ne_of_isDigit h (by decide)
  have hbreak : isBreak ch = false := IsNumeric.isBreak (.inl h)
  simp [endsWord, isBlank, hspace, htab, hnull, hbreak]

/-- A natural number may stand plainly. -/
theorem allowsPlain_digits (n : Nat) : AllowsPlain (Nat.toDigits 10 n) := by
  obtain ⟨ch, cs, hcs, hch, hds⟩ := exists_toDigits n
  rw [hcs]
  refine allowsPlain_of_numeric (List.cons_ne_nil ch cs) ?_ ?_ ?_
  · exact List.forall_mem_cons.mpr ⟨.inl hch, fun d hd => .inl (hds d hd)⟩
  · rw [Allowance.marksDocument.eq_def]
    split
    · next heq =>
      obtain ⟨rfl, -⟩ := List.cons.inj heq
      cases hch
    · next heq =>
      obtain ⟨rfl, -⟩ := List.cons.inj heq
      cases hch
    · rfl
  · have hquestion : ch ≠ '?' := ne_of_isDigit hch (by decide)
    have hcolon : ch ≠ ':' := ne_of_isDigit hch (by decide)
    have hdash : ch ≠ '-' := ne_of_isDigit hch (by decide)
    rw [Allowance.badStart, startsIndicator_of_isDigit hch]
    simp [hquestion, hcolon, hdash]

/-- A negative number may stand plainly. -/
theorem allowsPlain_negative (n : Nat) : AllowsPlain ('-' :: Nat.toDigits 10 n) := by
  obtain ⟨ch, cs, hcs, hch, hds⟩ := exists_toDigits n
  rw [hcs]
  refine allowsPlain_of_numeric (List.cons_ne_nil _ _) ?_ ?_ ?_
  · refine List.forall_mem_cons.mpr ⟨.inr rfl, ?_⟩
    exact List.forall_mem_cons.mpr ⟨.inl hch, fun d hd => .inl (hds d hd)⟩
  · rw [Allowance.marksDocument.eq_def]
    split
    · next heq =>
      obtain ⟨-, heq⟩ := List.cons.inj heq
      obtain ⟨rfl, -⟩ := List.cons.inj heq
      cases hch
    · next heq =>
      obtain ⟨hperiod, -⟩ := List.cons.inj heq
      exact absurd hperiod (by decide)
    · rfl
  · rw [Allowance.badStart, endsWord_of_isDigit hch]
    decide

theorem allowsPlain_intChars (z : Int) : AllowsPlain (Json.intChars z) := by
  cases z with
  | ofNat n => exact allowsPlain_digits n
  | negSucc n => exact allowsPlain_negative (n + 1)

/-! ### What digits are taken for -/

namespace Plain

theorem digit?_ten (h : ch.isDigit) : digit? 10 ch = some (Json.digitValue ch) := by
  have hhigh : ch.toNat ≤ 57 := (Char.isDigit_iff_toNat.mp h).2
  have hlt : ch.toNat - '0'.toNat < 10 := by
    show ch.toNat - 48 < 10
    omega
  rw [digit?, if_pos h, Option.filter_some, if_pos (by simpa using hlt)]
  rfl

/-- Decimal digits are read as the number that they write. -/
theorem digits?_ten (hne : s ≠ []) (hs : ∀ ch ∈ s, ch.isDigit) :
    digits? 10 s = some (Nat.ofDigitChars 10 s 0) := by
  have hfold : ∀ (cs : List Char) (m : Nat), (∀ ch ∈ cs, ch.isDigit) →
      cs.foldl (fun n ch => do return (← n) * 10 + (← digit? 10 ch)) (some m) =
        some (Nat.ofDigitChars 10 cs m) := by
    intro cs m hcs
    induction cs generalizing m with
    | nil => rfl
    | cons ch cs ih =>
      obtain ⟨hch, hcs⟩ := List.forall_mem_cons.mp hcs
      rw [List.foldl_cons, digit?_ten hch, Nat.ofDigitChars_cons, Nat.mul_comm]
      exact ih _ hcs
  obtain ⟨ch, cs, rfl⟩ := List.exists_cons_of_ne_nil hne
  exact hfold (ch :: cs) 0 hs

/-- Digits alone name no other base. -/
theorem radixMagnitude?_digits (hs : ∀ ch ∈ s, ch.isDigit) : radixMagnitude? s = none := by
  rw [radixMagnitude?.eq_def]
  split
  · exact absurd (hs 'x' (by simp)) (by decide)
  · exact absurd (hs 'o' (by simp)) (by decide)
  · exact absurd (hs 'b' (by simp)) (by decide)
  · rfl

/-- The digits of a number begin with a zero only if it is zero. -/
theorem isPaddedDigits_toDigits (n : Nat) : isPaddedDigits (Nat.toDigits 10 n) = false := by
  cases n with
  | zero => rfl
  | succ n =>
    obtain ⟨ch, cs, hcs, hch, -⟩ := exists_toDigits (n + 1)
    have hzero := Json.head?_toDigits_ne (Nat.succ_pos n)
    rw [hcs] at hzero ⊢
    have hunsigned : unsigned (ch :: cs) = ch :: cs := by
      rw [unsigned.eq_def]
      split
      · next heq =>
        obtain ⟨rfl, -⟩ := List.cons.inj heq
        cases hch
      · next heq =>
        obtain ⟨rfl, -⟩ := List.cons.inj heq
        cases hch
      · rfl
    rw [isPaddedDigits, hunsigned]
    split
    · next heq =>
      obtain ⟨rfl, -⟩ := List.cons.inj heq
      exact absurd rfl hzero
    · rfl

/-- The digits of a number are read as that number. -/
theorem magnitude?_toDigits (n : Nat) : magnitude? (Nat.toDigits 10 n) = some n := by
  have hdigits : ∀ ch ∈ Nat.toDigits 10 n, ch.isDigit := fun ch hch => isDigit_of_mem_digits hch
  have hvalue : digits? 10 (Nat.toDigits 10 n) = some n := by
    rw [digits?_ten Nat.toDigits_ne_nil hdigits, Nat.ofDigitChars_ten_toDigits]
  rw [magnitude?, radixMagnitude?_digits hdigits, isPaddedDigits_toDigits, hvalue]
  rfl

/-- The text of a number that fits into 64 bits is read as an integer. -/
theorem exists_int?_intChars {z : Int} (hz : Json.Fits64 z) :
    ∃ w, int? (Json.intChars z) = some w := by
  have hmin : Int64.minValue.toInt = -(2 ^ 63 : Int) := by decide
  have hsize : (UInt64.size : Int) = 2 ^ 64 := rfl
  obtain ⟨hlow, hhigh⟩ := hz
  cases z with
  | ofNat n =>
    have hlt : n < Nat.pow 2 128 := by
      rw [Int.ofNat_eq_natCast] at hhigh
      rw [Nat.pow_eq]
      omega
    obtain ⟨ch, cs, hcs, hch, -⟩ := exists_toDigits n
    have hmagnitude := magnitude?_toDigits n
    rw [Json.intChars, int?.eq_def, hcs]
    rw [hcs] at hmagnitude
    split
    · next heq =>
      obtain ⟨rfl, -⟩ := List.cons.inj heq
      cases hch
    · next heq =>
      obtain ⟨rfl, -⟩ := List.cons.inj heq
      cases hch
    · rw [hmagnitude]
      exact ⟨n, if_pos hlt⟩
  | negSucc n =>
    have hle : n + 1 ≤ Nat.pow 2 127 := by
      rw [Nat.pow_eq]
      omega
    rw [Json.intChars, int?, magnitude?_toDigits]
    exact ⟨_, if_pos hle⟩

/-- A text that reads as an integer is mistaken for one as a string. -/
theorem isMistakable_of_int? {text : String} {z : Int} (h : int? text.toList = some z) :
    isMistakable text := by
  rw [isMistakable, resolve]
  by_cases hnull : nullWords.contains text
  · rw [if_pos hnull]
  · rw [if_neg hnull]
    cases bool? text with
    | some b => rfl
    | none =>
      rw [h]

end Plain

/-- A string that spells an integer would be taken for the integer. -/
theorem isMistakable_intChars {z : Int} (hz : Json.Fits64 z) :
    Plain.isMistakable (String.ofList (Json.intChars z)) := by
  obtain ⟨w, hw⟩ := Plain.exists_int?_intChars hz
  refine Plain.isMistakable_of_int? (z := w) ?_
  rw [String.toList_ofList, hw]

end BoundaryContract.Yaml
