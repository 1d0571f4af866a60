import BoundaryContract.Json.Printer
import BoundaryContract.Json.Tree

/-!
# Printed scalars

What the printer writes for a string or an integer is read back as that string or integer, in front
of any text that could not be taken for more of it. For a string this is one lemma about the way a
single character is written (`readString_escapeChar`); for an integer it is that the written digits
do not begin with a zero that another digit follows, and that all of them fit in 64 bits.
-/

namespace BoundaryContract.Json

/-! ### Strings -/

/-- A control character is read back from the four digits that it is written with. -/
theorem hexFour?_of_lt {n : Nat} (hn : n < 0x20) :
    hexFour? '0' '0' (Nat.digitChar (n / 16)) (Nat.digitChar (n % 16)) = some n := by
  revert n
  decide

/-- A written character is read back. -/
theorem readString_escapeChar (c : Char) (s : List Char) :
    readString (escapeChar c ++ s) = consRead c (readString s) := by
  rw [escapeChar.eq_def]
  split
  case h_8 =>
    split
    · next hc =>
      have hlow : isLowSurrogate c.toNat = false := by simp [isLowSurrogate]; omega
      have hhigh : isHighSurrogate c.toNat = false := by simp [isHighSurrogate]; omega
      simp [controlEscape, readString, hexFour?_of_lt hc, hlow, hhigh, Char.ofNat_toNat]
    · next hc => simp [readString, hc]
  all_goals simp [readString, simpleEscape?]

/-- A written character is passed over. -/
theorem passString_escapeChar (c : Char) (s : List Char) :
    passString (escapeChar c ++ s) = passString s := by
  rw [escapeChar.eq_def]
  split
  case h_8 =>
    split
    · next hc => simp [controlEscape, passString, hexFour?_of_lt hc]
    · next hc => simp [passString, hc]
  all_goals simp [passString, simpleEscape?]

/-- What is written of a string after its opening quote is read back as its characters. -/
theorem readString_escaped (cs s : List Char) :
    readString (cs.flatMap escapeChar ++ '"' :: s) = .ok (cs, s) := by
  induction cs with
  | nil => simp [readString]
  | cons c cs ih =>
    rw [List.flatMap_cons, List.append_assoc, readString_escapeChar, ih, consRead]

/-- A string is passed over up to its closing quote, not to one that is escaped. -/
theorem passString_escaped (cs s : List Char) :
    passString (cs.flatMap escapeChar ++ '"' :: s) = .ok s := by
  induction cs with
  | nil => simp [passString]
  | cons c cs ih => rw [List.flatMap_cons, List.append_assoc, passString_escapeChar, ih]

theorem stringContent_escaped (text : String) (s : List Char) :
    stringContent (text.toList.flatMap escapeChar ++ '"' :: s) = .ok text := by
  rw [stringContent, readString_escaped]
  simp

/-! ### Integers -/

/-- The text does not begin with anything that could be taken for more of a number. -/
def EndsNumber (s : List Char) : Prop :=
  ∀ c ∈ s.head?, c.isDigit = false ∧ c ≠ '.' ∧ c ≠ 'e' ∧ c ≠ 'E'

/-- The integers that a JSON number can be: those of 64 bits, signed or unsigned. -/
def Fits64 (z : Int) : Prop := Int64.minValue.toInt ≤ z ∧ z < UInt64.size

/-- Only the number zero is written with a zero at its beginning. -/
theorem head?_toDigits_ne {n : Nat} (hn : 0 < n) : (Nat.toDigits 10 n).head? ≠ some '0' := by
  induction n using Nat.strongRecOn with
  | _ n ih =>
    rw [Nat.toDigits_eq_if (by decide)]
    split
    · simpa using Nat.ne_of_gt hn
    · next hlarge =>
      -- the first digit is the one of the number without its last digit
      have hsome : (Nat.toDigits 10 (n / 10)).head?.isSome := by simp [Nat.toDigits_ne_nil]
      rw [List.head?_append, Option.or_of_isSome hsome]
      exact ih (n / 10) (by omega) (by omega)

/-- A written natural number is read from its first digit to its last. -/
theorem readWhole_toDigits (n : Nat) {s : List Char} (hs : EndsNumber s) :
    readWhole (Nat.toDigits 10 n ++ s) = .ok (Nat.toDigits 10 n, s) := by
  obtain rfl | hn := n.eq_zero_or_pos
  · cases s with
    | nil => rfl
    | cons c s => simp [readWhole, (hs c rfl).1]
  · have hdigit : ∀ c ∈ Nat.toDigits 10 n, c.isDigit :=
      fun c => Nat.isDigit_of_mem_toDigits (by decide) (by decide)
    have hstop : s.takeWhile Char.isDigit = [] ∧ s.dropWhile Char.isDigit = s := by
      cases s with
      | nil => exact ⟨rfl, rfl⟩
      | cons c s => simp [(hs c rfl).1]
    have htake : (Nat.toDigits 10 n ++ s).takeWhile Char.isDigit = Nat.toDigits 10 n := by
      rw [List.takeWhile_append_of_pos hdigit, hstop.1, List.append_nil]
    have hdrop : (Nat.toDigits 10 n ++ s).dropWhile Char.isDigit = s := by
      rw [List.dropWhile_append_of_pos hdigit, hstop.2]
    obtain ⟨c, ds, hds⟩ := List.exists_cons_of_ne_nil (Nat.toDigits_ne_nil (n := n) (b := 10))
    have hc : c.isDigit := hdigit c (by simp [hds])
    have hzero : c ≠ '0' := by
      rintro rfl
      exact head?_toDigits_ne hn (by rw [hds]; rfl)
    rw [hds] at htake hdrop ⊢
    rw [List.cons_append] at htake hdrop ⊢
    simp [readWhole, hc, htake, hdrop]

/-- Printed digits are read as a numeral without fraction and exponent. -/
theorem readNumeral_toDigits (negative : Bool) (n : Nat) {s : List Char} (hs : EndsNumber s) :
    readNumeral negative (Nat.toDigits 10 n ++ s) =
      .ok (⟨negative, Nat.toDigits 10 n, [], none⟩, s) := by
  have hfraction : readFraction s = .ok ([], s) := by
    cases s with
    | nil => rfl
    | cons c s => simp [readFraction, (hs c rfl).2]
  have hexponent : readExponent s = .ok (none, s) := by
    cases s with
    | nil => rfl
    | cons c s => simp [readExponent, (hs c rfl).2]
  simp only [readNumeral, readWhole_toDigits n hs, hfraction, hexponent, bind, Except.bind]
  rfl

/-- Digits that stay within the limit are all taken in. -/
theorem absorb_of_le {limit n : Nat} {ds : List Char} (h : Nat.ofDigitChars 10 ds n ≤ limit) :
    absorb limit n ds = (Nat.ofDigitChars 10 ds n, []) := by
  induction ds generalizing n with
  | nil => rfl
  | cons d ds ih =>
    have hd : Nat.ofDigitChars 10 (d :: ds) n = Nat.ofDigitChars 10 ds (n * 10 + digitValue d) := by
      rw [Nat.ofDigitChars_cons, Nat.mul_comm]
      rfl
    rw [hd] at h ⊢
    have hle : n * 10 + digitValue d ≤ limit := by
      refine Nat.le_trans ?_ h
      rw [Nat.ofDigitChars_eq_ofDigitChars_zero]
      have hpos : 0 < 10 ^ ds.length := Nat.pow_pos (by decide)
      exact Nat.le_add_right_of_le (Nat.le_mul_of_pos_left _ hpos)
    rw [absorb, if_pos hle, ih h]

/-- Such a numeral is worth the integer that was printed. -/
theorem value_toDigits {negative : Bool} {n : Nat} (hn : n ≤ maxUnsigned) (rest : List Char) :
    (⟨negative, Nat.toDigits 10 n, [], none⟩ : Numeral).value rest =
      .ok (integerValue negative n) := by
  have habsorb : absorb maxUnsigned 0 (Nat.toDigits 10 n) = (n, []) := by
    rw [absorb_of_le (by rwa [Nat.ofDigitChars_ten_toDigits]), Nat.ofDigitChars_ten_toDigits]
  simp [Numeral.value, habsorb]

/-- A number begins with a digit, so it is none of the other scalars. -/
theorem ofScalar_toDigits (n : Nat) (s : List Char) :
    Tree.ofScalar (Nat.toDigits 10 n ++ s) =
      Tree.ofNumber false (Nat.toDigits 10 n ++ s) (Nat.toDigits 10 n ++ s) := by
  obtain ⟨c, ds, hds⟩ := List.exists_cons_of_ne_nil (Nat.toDigits_ne_nil (n := n) (b := 10))
  have hc : c.isDigit :=
    Nat.isDigit_of_mem_toDigits (b := 10) (n := n) (by decide) (by decide) (by simp [hds])
  rw [hds, List.cons_append, Tree.ofScalar.eq_def]
  split
  · next h => cases h
  · next h =>
    cases h
    split <;> simp_all

/-- A written integer of 64 bits is read back. -/
theorem ofScalar_intChars {z : Int} (hz : Fits64 z) {s : List Char} (hs : EndsNumber s) :
    ∃ numeral, Tree.ofScalar (intChars z ++ s) = .number numeral (intChars z ++ s) s ∧
      ∀ rest, numeral.value rest = .ok (.int z) := by
  obtain ⟨hlow, hhigh⟩ := hz
  have hmin : Int64.minValue.toInt = -(2 ^ 63 : Int) := by decide
  have hsize : UInt64.size = 2 ^ 64 := rfl
  have hmax : maxUnsigned = 2 ^ 64 - 1 := rfl
  cases z with
  | ofNat n =>
    have hn : n ≤ maxUnsigned := by
      rw [Int.ofNat_eq_natCast] at hhigh
      omega
    refine ⟨⟨false, Nat.toDigits 10 n, [], none⟩, ?_, value_toDigits hn⟩
    rw [intChars, ofScalar_toDigits, Tree.ofNumber, readNumeral_toDigits _ _ hs]
  | negSucc n =>
    have hrange : 0 < n + 1 ∧ n + 1 ≤ Nat.pow 2 63 := by
      rw [Int.negSucc_eq] at hlow
      rw [Nat.pow_eq]
      omega
    have hn : n + 1 ≤ maxUnsigned := by
      rw [Nat.pow_eq] at hrange
      omega
    refine ⟨⟨true, Nat.toDigits 10 (n + 1), [], none⟩, ?_, fun rest => ?_⟩
    · rw [intChars, List.cons_append, Tree.ofScalar, Tree.ofNumber, readNumeral_toDigits _ _ hs]
    · rw [value_toDigits hn, integerValue, if_pos rfl, if_pos hrange]
      rfl

end BoundaryContract.Json
