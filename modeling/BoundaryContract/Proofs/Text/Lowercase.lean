import BoundaryContract.Text.Lowercase
import Mathlib.Tactic.Common

/-!
# Words in lower case

Only ASCII letters have ASCII letters for lower case, but for two signs: the Kelvin sign, which
becomes a `k`, and the capital `I` with a dot above, which keeps its dot as a character of its own.
So whether a text in lower case is a given ASCII word without the letter `k` is a matter of its
ASCII letters alone (`lower_eq_iff`).
-/

namespace BoundaryContract.Text

/-- A character that only an ASCII character has for lower case. -/
def IsBasic (ch : Char) : Prop := ch.toNat < 0x80 ∧ ch ≠ 'k'

instance (ch : Char) : Decidable (IsBasic ch) := inferInstanceAs (Decidable (_ ∧ _))

/-- Lower-casing of ASCII leaves everything beyond it alone. -/
theorem toLower_of_not_ascii {ch : Char} (h : 0x80 ≤ ch.toNat) : ch.toLower = ch := by
  have hupper : ¬ (ch.val ≥ 'A'.val ∧ ch.val ≤ 'Z'.val) := by
    rintro ⟨-, hle⟩
    have hle : ch.toNat ≤ 0x5a := UInt32.le_iff_toNat_le.mp hle
    omega
  exact dif_neg hupper

/-- A range leads beyond ASCII, and to characters only. -/
def CaseRange.LeadsBeyond (range : CaseRange) : Prop :=
  0x80 ≤ range.target ∧ (range.target + (range.last - range.first) < 0xd800 ∨
    0xdfff < range.target ∧ range.target + (range.last - range.first) < 0x110000)

instance (range : CaseRange) : Decidable range.LeadsBeyond := inferInstanceAs (Decidable (_ ∧ _))

/-- Every range leads beyond ASCII, but for that of the Kelvin sign. -/
theorem leadsBeyond_of_mem : ∀ range ∈ lowerRanges,
    range.LeadsBeyond ∨ range.first = range.last ∧ Char.ofNat range.target = 'k' := by
  decide +kernel

theorem toNat_ofNat {n : Nat} (h : n.isValidChar) : (Char.ofNat n).toNat = n := by
  rw [Char.ofNat, dif_pos h]
  rfl

/-- The lower case of a character beyond ASCII is not only made of basic characters. -/
theorem exists_not_isBasic {ch : Char} (h : 0x80 ≤ ch.toNat) :
    ∃ lowered ∈ lowerChar ch, ¬ IsBasic lowered := by
  rw [lowerChar, if_neg (by omega)]
  split
  · exact ⟨'\u0307', by simp, by decide⟩
  split
  · next range hfind =>
    have hhas := List.find?_some hfind
    simp only [CaseRange.has, Bool.and_eq_true, decide_eq_true_eq] at hhas
    obtain ⟨⟨hfirst, hlast⟩, -⟩ := hhas
    refine ⟨_, List.mem_singleton_self _, ?_⟩
    obtain ⟨htarget, hvalid⟩ | ⟨hsingle, hkelvin⟩ :=
      leadsBeyond_of_mem range (List.mem_of_find?_eq_some hfind)
    · have hchar : (range.target + (ch.toNat - range.first)).isValidChar := by
        obtain hlow | ⟨hhigh, htop⟩ := hvalid
        · exact .inl (by omega)
        · exact .inr ⟨by omega, by omega⟩
      rintro ⟨hascii, -⟩
      rw [toNat_ofNat hchar] at hascii
      omega
    · have hzero : ch.toNat - range.first = 0 := by omega
      rw [hzero, Nat.add_zero, hkelvin]
      decide
  · exact ⟨ch, List.mem_singleton_self ch, fun hbasic => by have := hbasic.1; omega⟩

/-- Whether a basic word is the lower case of a text is a matter of ASCII, whatever stands before.
-/
theorem lowerFrom_eq_iff {word : List Char} (hword : ∀ ch ∈ word, IsBasic ch)
    (before s : List Char) : lowerFrom before s = word ↔ s.map Char.toLower = word := by
  induction s generalizing before word with
  | nil => exact Iff.rfl
  | cons ch s ih =>
    by_cases hascii : ch.toNat < 0x80
    · have hsigma : ch ≠ 'Σ' := by
        rintro rfl
        exact absurd hascii (by decide)
      have hlower : lowerFrom before (ch :: s) = ch.toLower :: lowerFrom (ch :: before) s := by
        rw [lowerFrom, if_neg hsigma, lowerChar, if_pos hascii]
        rfl
      rw [hlower, List.map_cons]
      cases word with
      | nil => simp
      | cons first word =>
        rw [List.cons.injEq, List.cons.injEq,
          ih (fun ch hch => hword ch (List.mem_cons_of_mem _ hch))]
    · have hbeyond : 0x80 ≤ ch.toNat := by omega
      have hpiece : ∃ lowered ∈ lowerFrom before (ch :: s), ¬ IsBasic lowered := by
        rw [lowerFrom]
        by_cases hsigma : ch = 'Σ'
        · refine ⟨lowerSigma before s, by simp [hsigma], ?_⟩
          rw [lowerSigma]
          split <;> decide
        · obtain ⟨lowered, hmem, hbasic⟩ := exists_not_isBasic hbeyond
          exact ⟨lowered, by simp [hsigma, hmem], hbasic⟩
      obtain ⟨lowered, hmem, hbasic⟩ := hpiece
      -- neither side holds: on the left something in the word would not be basic
      refine iff_of_false (fun heq => hbasic (hword lowered (heq ▸ hmem))) fun heq => ?_
      -- and on the right the character itself would be in the word
      have hch : ch ∈ word := by
        rw [← heq, List.map_cons, toLower_of_not_ascii hbeyond]
        exact List.mem_cons_self ..
      exact hascii (hword ch hch).1

/-- Whether a text in lower case is a word of basic characters depends on its ASCII letters alone.
-/
theorem lower_eq_iff {text word : String} (hword : ∀ ch ∈ word.toList, IsBasic ch) :
    lower text = word ↔ text.toList.map Char.toLower = word.toList := by
  rw [lower, ← String.toList_inj, String.toList_ofList]
  exact lowerFrom_eq_iff hword [] text.toList

end BoundaryContract.Text
