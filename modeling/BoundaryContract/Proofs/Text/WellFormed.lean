import BoundaryContract.Text.Utf8
import Mathlib.Tactic.Common

/-!
# Well-formed bytes

`Text.WellFormed` spells out which bytes encode a text, by the ranges of the bytes of one character.
The bytes that are read as a text are these and no others (`isValidUTF8_iff`): the ranges leave out
just what no character is encoded as, which are overlong forms, surrogates, and anything above
U+10FFFF.

Both directions go character by character. The bytes of a character are in the ranges
(`wellFormedChar_utf8EncodeChar`), and from bytes in the ranges a character is assembled that is
encoded as them (`exists_utf8EncodeChar`).
-/

namespace BoundaryContract.Text

/-- A byte that goes on with a character. -/
structure Continues (b : UInt8) : Prop where
  low : 0x80 ≤ b
  high : b ≤ 0xBF

/-- The bytes of one character. -/
inductive WellFormedChar : List UInt8 → Prop
  | one {a : UInt8} (ha : a ≤ 0x7F) : WellFormedChar [a]
  /-- A smaller first byte would begin an overlong form. -/
  | two {a b : UInt8} (low : 0xC2 ≤ a) (high : a ≤ 0xDF) (hb : Continues b) :
    WellFormedChar [a, b]
  | three {a b c : UInt8} (low : 0xE0 ≤ a) (high : a ≤ 0xEF) (hb : Continues b) (hc : Continues c)
    (overlong : a = 0xE0 → 0xA0 ≤ b) (surrogate : a = 0xED → b ≤ 0x9F) : WellFormedChar [a, b, c]
  | four {a b c d : UInt8} (low : 0xF0 ≤ a) (high : a ≤ 0xF4) (hb : Continues b) (hc : Continues c)
    (hd : Continues d) (overlong : a = 0xF0 → 0x90 ≤ b) (above : a = 0xF4 → b ≤ 0x8F) :
    WellFormedChar [a, b, c, d]

/-- The bytes of a text, character after character. -/
inductive WellFormed : List UInt8 → Prop
  | nil : WellFormed []
  | cons {char rest : List UInt8} (hchar : WellFormedChar char) (hrest : WellFormed rest) :
    WellFormed (char ++ rest)

/-! ### From characters to bytes -/

section

variable {n : Nat}

private theorem le_ofNat (k : Nat) (hn : n < 256) (h : k ≤ n) : UInt8.ofNat k ≤ UInt8.ofNat n := by
  rw [UInt8.le_iff_toNat_le, UInt8.toNat_ofNat', UInt8.toNat_ofNat']
  omega

private theorem ofNat_le (k : Nat) (hk : k < 256) (h : n ≤ k) : UInt8.ofNat n ≤ UInt8.ofNat k :=
  le_ofNat n hk h

private theorem eq_of_ofNat_eq (k : Nat) (hk : k < 256) (hn : n < 256)
    (h : UInt8.ofNat n = UInt8.ofNat k) : n = k := by
  rw [← UInt8.toNat_inj, UInt8.toNat_ofNat', UInt8.toNat_ofNat'] at h
  omega

theorem continues_ofNat (low : 0x80 ≤ n) (high : n ≤ 0xBF) : Continues (.ofNat n) :=
  ⟨le_ofNat 0x80 (by omega) low, ofNat_le 0xBF (by decide) high⟩

/-- A character is encoded in bytes of the ranges. -/
theorem wellFormedChar_utf8EncodeChar (c : Char) : WellFormedChar (String.utf8EncodeChar c) := by
  have hvalid : c.val.toNat < 0xD800 ∨ 0xDFFF < c.val.toNat ∧ c.val.toNat < 0x110000 := c.valid
  simp only [String.utf8EncodeChar]
  generalize c.val.toNat = v at hvalid
  -- one case for each number of bytes; the bounds of the second byte depend on the first
  split
  · exact .one (ofNat_le 0x7F (by decide) ‹_›)
  split
  · exact .two (le_ofNat 0xC2 (by omega) (by omega)) (ofNat_le 0xDF (by decide) (by omega))
      (continues_ofNat (by omega) (by omega))
  split
  · refine .three (le_ofNat 0xE0 (by omega) (by omega)) (ofNat_le 0xEF (by decide) (by omega))
      (continues_ofNat (by omega) (by omega)) (continues_ofNat (by omega) (by omega))
      (fun h => le_ofNat 0xA0 (by omega) ?_) (fun h => ofNat_le 0x9F (by decide) ?_)
    · have := eq_of_ofNat_eq 0xE0 (by decide) (by omega) h
      omega
    · have := eq_of_ofNat_eq 0xED (by decide) (by omega) h
      omega
  · refine .four (le_ofNat 0xF0 (by omega) (by omega)) (ofNat_le 0xF4 (by decide) (by omega))
      (continues_ofNat (by omega) (by omega)) (continues_ofNat (by omega) (by omega))
      (continues_ofNat (by omega) (by omega))
      (fun h => le_ofNat 0x90 (by omega) ?_) (fun h => ofNat_le 0x8F (by decide) ?_)
    · have := eq_of_ofNat_eq 0xF0 (by decide) (by omega) h
      omega
    · have := eq_of_ofNat_eq 0xF4 (by decide) (by omega) h
      omega

end

/-! ### From bytes to characters -/

theorem Continues.toNat {b : UInt8} (h : Continues b) : 0x80 ≤ b.toNat ∧ b.toNat ≤ 0xBF :=
  ⟨UInt8.le_iff_toNat_le.mp h.low, UInt8.le_iff_toNat_le.mp h.high⟩

private theorem exists_char {v : Nat} (h : v.isValidChar) : ∃ c : Char, c.val.toNat = v :=
  ⟨Char.ofNatAux v h, rfl⟩

private theorem eq_ofNat {b : UInt8} {n : Nat} (h : b.toNat = n) : b = UInt8.ofNat n :=
  h ▸ UInt8.ofNat_toNat.symm

/-- Bytes in the ranges are what some character is encoded as. -/
theorem exists_utf8EncodeChar {bs : List UInt8} (h : WellFormedChar bs) :
    ∃ c : Char, bs = String.utf8EncodeChar c := by
  simp only [String.utf8EncodeChar]
  -- the character is put together from the bits of its bytes, and each bound of a byte keeps it
  -- valid
  cases h with
  | @one a ha =>
    have ha : a.toNat ≤ 0x7F := UInt8.le_iff_toNat_le.mp ha
    obtain ⟨c, hc⟩ := exists_char (v := a.toNat) (by left; omega)
    exact ⟨c, by rw [hc, if_pos ha, ← eq_ofNat rfl]⟩
  | @two a b low high hb =>
    have low : 0xC2 ≤ a.toNat := UInt8.le_iff_toNat_le.mp low
    have high : a.toNat ≤ 0xDF := UInt8.le_iff_toNat_le.mp high
    have hb := hb.toNat
    obtain ⟨c, hc⟩ := exists_char (v := (a.toNat - 0xC0) * 0x40 + (b.toNat - 0x80))
      (by left; omega)
    refine ⟨c, ?_⟩
    rw [hc, if_neg (by omega), if_pos (by omega), ← eq_ofNat (b := a) (by omega),
      ← eq_ofNat (b := b) (by omega)]
  | @three a b c low high hb hc overlong surrogate =>
    have low : 0xE0 ≤ a.toNat := UInt8.le_iff_toNat_le.mp low
    have high : a.toNat ≤ 0xEF := UInt8.le_iff_toNat_le.mp high
    have hb := hb.toNat
    have hc := hc.toNat
    have overlong : a.toNat = 0xE0 → 0xA0 ≤ b.toNat :=
      fun h => UInt8.le_iff_toNat_le.mp (overlong (UInt8.toNat_inj.mp h))
    have surrogate : a.toNat = 0xED → b.toNat ≤ 0x9F :=
      fun h => UInt8.le_iff_toNat_le.mp (surrogate (UInt8.toNat_inj.mp h))
    obtain ⟨char, hchar⟩ := exists_char
      (v := (a.toNat - 0xE0) * 0x1000 + (b.toNat - 0x80) * 0x40 + (c.toNat - 0x80))
      (by unfold Nat.isValidChar; omega)
    refine ⟨char, ?_⟩
    rw [hchar, if_neg (by omega), if_neg (by omega), if_pos (by omega),
      ← eq_ofNat (b := a) (by omega), ← eq_ofNat (b := b) (by omega),
      ← eq_ofNat (b := c) (by omega)]
  | @four a b c d low high hb hc hd overlong above =>
    have low : 0xF0 ≤ a.toNat := UInt8.le_iff_toNat_le.mp low
    have high : a.toNat ≤ 0xF4 := UInt8.le_iff_toNat_le.mp high
    have hb := hb.toNat
    have hc := hc.toNat
    have hd := hd.toNat
    have overlong : a.toNat = 0xF0 → 0x90 ≤ b.toNat :=
      fun h => UInt8.le_iff_toNat_le.mp (overlong (UInt8.toNat_inj.mp h))
    have above : a.toNat = 0xF4 → b.toNat ≤ 0x8F :=
      fun h => UInt8.le_iff_toNat_le.mp (above (UInt8.toNat_inj.mp h))
    obtain ⟨char, hchar⟩ := exists_char (v := (a.toNat - 0xF0) * 0x40000 +
        (b.toNat - 0x80) * 0x1000 + (c.toNat - 0x80) * 0x40 + (d.toNat - 0x80))
      (by unfold Nat.isValidChar; omega)
    refine ⟨char, ?_⟩
    rw [hchar, if_neg (by omega), if_neg (by omega), if_neg (by omega),
      ← eq_ofNat (b := a) (by omega), ← eq_ofNat (b := b) (by omega),
      ← eq_ofNat (b := c) (by omega), ← eq_ofNat (b := d) (by omega)]

/-! ### Texts -/

/-- Bytes that encode characters are well-formed, and no others. -/
theorem wellFormed_iff_exists_flatMap {bs : List UInt8} :
    WellFormed bs ↔ ∃ cs : List Char, bs = cs.flatMap String.utf8EncodeChar := by
  constructor
  · intro h
    induction h with
    | nil => exact ⟨[], rfl⟩
    | cons hchar _ ih =>
      obtain ⟨c, rfl⟩ := exists_utf8EncodeChar hchar
      obtain ⟨cs, rfl⟩ := ih
      exact ⟨c :: cs, rfl⟩
  · rintro ⟨cs, rfl⟩
    induction cs with
    | nil => exact .nil
    | cons c cs ih => exact .cons (wellFormedChar_utf8EncodeChar c) ih

/-- The bytes that are read as a text are the well-formed ones. -/
theorem isValidUTF8_iff {bytes : ByteArray} :
    bytes.IsValidUTF8 ↔ WellFormed bytes.data.toList := by
  rw [wellFormed_iff_exists_flatMap]
  constructor
  · rintro ⟨cs, rfl⟩
    exact ⟨cs, by rw [List.utf8Encode, List.data_toByteArray]⟩
  · rintro ⟨cs, hcs⟩
    refine ⟨cs, ?_⟩
    ext1
    rw [List.utf8Encode, ← hcs, List.data_toByteArray]

/-- Every text is encoded in well-formed bytes. -/
theorem wellFormed_toUTF8 (x : String) : WellFormed x.toUTF8.data.toList :=
  isValidUTF8_iff.mp x.isValidUTF8

/-- Well-formed bytes are those of a text, which is read from them. -/
theorem exists_text {bytes : ByteArray} (h : WellFormed bytes.data.toList) :
    ∃ x : String, bytes = x.toUTF8 :=
  ⟨⟨bytes, isValidUTF8_iff.mpr h⟩, rfl⟩

/-- From other bytes no text is read. -/
theorem fromUTF8?_eq_none {bytes : ByteArray} (h : ¬ WellFormed bytes.data.toList) :
    String.fromUTF8? bytes = none :=
  dif_neg fun hvalid => h (isValidUTF8_iff.mp hvalid)

end BoundaryContract.Text
