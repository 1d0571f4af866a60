import BoundaryContract.Boundary.Faulty

/-!
# The faulty boundaries

What each operation of a faulty boundary does to its store, one equation for each, and what the
faults do to the integers and texts that pass through it. A fault may be without effect on all
samples that are looked at: a bound that no integer exceeds stores every integer as it is
(`Faults.stored_eq_self_iff`), and a limit of thirteen characters shows short texts whole.
-/

namespace BoundaryContract

variable {f : Faults} {s : SharedStore} {a b : Nat}

namespace Faults

/-! ### Integers -/

/-- Without an offset and without a bound that cuts, an integer is stored as it is. -/
theorem stored_eq_self (hoffset : f.offset = 0) (hclamp : ∀ c ∈ f.clamp, c = Int32.maxValue)
    (n : Int32) : f.stored n = n := by
  rw [stored, hoffset, Int32.add_zero]
  cases h : f.clamp with
  | none => rfl
  | some c =>
    rw [hclamp c h]
    exact if_pos (Int32.le_maxValue n)

/-- The two extremes show whatever is wrong: the least integer is below every bound and so shows
what is added, and only the greatest one is above every other bound. -/
theorem of_stored_extremes (hmin : f.stored Int32.minValue = Int32.minValue)
    (hmax : f.stored Int32.maxValue = Int32.maxValue) :
    f.offset = 0 ∧ ∀ c ∈ f.clamp, c = Int32.maxValue := by
  have hoffset : f.offset = 0 := by
    cases h : f.clamp with
    | none => simpa [stored, h] using hmin
    | some c => simpa [stored, h, Int32.minValue_le] using hmin
  refine ⟨hoffset, fun c hc => ?_⟩
  have hc : f.clamp = some c := hc
  by_cases hle : Int32.maxValue ≤ c
  · exact Int32.le_antisymm (Int32.le_maxValue c) hle
  · simpa [stored, hoffset, hc, hle] using hmax

/-- All integers are stored as they are only when nothing is added and nothing is cut off. -/
theorem stored_eq_self_iff :
    (∀ n, f.stored n = n) ↔ f.offset = 0 ∧ ∀ c ∈ f.clamp, c = Int32.maxValue :=
  ⟨fun h => of_stored_extremes (h _) (h _), fun h => stored_eq_self h.1 h.2⟩

/-! ### Texts -/

/-- A limit bounds every text that is shown. -/
theorem length_shown_le {t : String} {n : Nat} (h : f.stringLimit = some n) :
    (f.shown t).length ≤ n := by
  rw [shown, h]
  simp only [String.length_ofList, List.length_take]
  exact Nat.min_le_left _ _

/-- A limit leaves as much of a text as it allows. -/
theorem le_length_shown {t : String} {m : Nat} (hlimit : ∀ n ∈ f.stringLimit, m ≤ n)
    (ht : m ≤ t.length) : m ≤ (f.shown t).length := by
  cases h : f.stringLimit with
  | none => simpa [shown, h] using ht
  | some n =>
    rw [shown, h]
    simp only [String.length_ofList, List.length_take, String.length_toList]
    exact Nat.le_min.mpr ⟨hlimit n h, ht⟩

/-- A text within the limit is shown as it is. -/
theorem shown_of_length_le {t : String} (h : ∀ n ∈ f.stringLimit, t.length ≤ n) :
    f.shown t = t := by
  cases hlimit : f.stringLimit with
  | none => rw [shown, hlimit]
  | some n =>
    rw [shown, hlimit]
    simp only [List.take_of_length_le (String.length_toList ▸ h n hlimit), String.ofList_toList]

/-- Unless nothing is ever shown, only the empty text is shown as the empty one. -/
theorem eq_empty_of_shown {t : String} (hlimit : ∀ n ∈ f.stringLimit, 1 ≤ n)
    (h : f.shown t = "") : t = "" := by
  refine String.length_eq_zero_iff.mp (Nat.lt_one_iff.mp (Nat.not_le.mp fun ht => ?_))
  have hlength : 1 ≤ (f.shown t).length := le_length_shown hlimit ht
  rw [h] at hlength
  exact absurd hlength (by decide)

theorem overwritten_of_keep (hkeep : f.keepOnEmpty = true) (old : String) :
    f.overwritten old "" = old :=
  if_pos ⟨hkeep, rfl⟩

theorem overwritten_of_append (happend : f.stringAppend = true) {new : String} (hnew : new ≠ "")
    (old : String) : f.overwritten old new = old ++ new := by
  rw [overwritten, if_neg fun h => hnew h.2, if_pos happend]

theorem overwritten_of_ne (happend : f.stringAppend = false) {new : String} (hnew : new ≠ "")
    (old : String) : f.overwritten old new = new := by
  rw [overwritten, if_neg fun h => hnew h.2, happend, if_neg Bool.false_ne_true]

theorem overwritten_eq (happend : f.stringAppend = false) (hkeep : f.keepOnEmpty = false)
    (old new : String) : f.overwritten old new = new := by
  simp [overwritten, happend, hkeep]

/-- No fault of the setter shows on an empty old text. -/
@[simp] theorem overwritten_empty (new : String) : f.overwritten "" new = new := by
  by_cases h : f.keepOnEmpty ∧ new = ""
  · rw [overwritten, if_pos h, h.2]
  · rw [overwritten, if_neg h, String.empty_append, ite_self]

/-! ### Selection -/

/-- Two different texts are enough to show that the selecting function is wrong. -/
theorem combo_eq_none_iff {str1 str2 : String} (hne : str1 ≠ str2) :
    f.combo = none ↔ ∀ b, f.selected str1 str2 b = Reference.select str1 str2 b := by
  refine ⟨fun h b => by rw [selected, h], fun h => ?_⟩
  have htrue : f.selected str1 str2 true = str1 := h true
  have hfalse : f.selected str1 str2 false = str2 := h false
  cases hcombo : f.combo with
  | none => rfl
  | some fault =>
    rw [selected, hcombo] at htrue hfalse
    cases fault with
    | invert => exact absurd hfalse hne
    | first => exact absurd hfalse hne
    | second => exact absurd htrue.symm hne
    | concat =>
      have h1 : str1 = "" := by simpa using hfalse
      have h2 : str2 = "" := by simpa using htrue
      exact absurd (h1.trans h2.symm) hne

end Faults

/-! ### Operations -/

namespace SharedStore

/-- A new outer struct takes two places, its own and that of its nested struct. -/
theorem run_newOuter :
    (faultyBoundary f).newOuter.run s =
      ⟨s.next + 1,
        ⟨(s.next + 1, ⟨f.int32Default, f.boolDefault, f.stringDefault, s.next⟩) :: s.outers,
          (s.next, f.innerDefault) :: s.cells, s.next + 2⟩, []⟩ := rfl

theorem run_newInner :
    (faultyBoundary f).newInner.run s =
      ⟨s.next, ⟨s.outers, (s.next, f.innerDefault) :: s.cells, s.next + 1⟩, []⟩ := rfl

/-- Dropping a nested struct leaves its cell, since others may share it. -/
theorem run_dropInner : ((faultyBoundary f).dropInner b).run s = ⟨(), s, []⟩ := rfl

theorem run_outerInt32 :
    ((faultyBoundary f).outerInt32 a).run s = ⟨(s.outer a).int32, s, []⟩ := rfl

theorem run_setOuterInt32 (n : Int32) :
    ((faultyBoundary f).setOuterInt32 a n).run s =
      ⟨(), ⟨s.outers.update a fun x => { x with int32 := f.stored n }, s.cells, s.next⟩, []⟩ := rfl

theorem run_outerBool : ((faultyBoundary f).outerBool a).run s = ⟨(s.outer a).bool, s, []⟩ := rfl

/-- The text is shown with the faults of texts. -/
theorem run_outerString :
    ((faultyBoundary f).outerString a).run s = ⟨f.shown (s.outer a).string, s, []⟩ := rfl

/-- The text that is set meets the old one. -/
theorem run_setOuterString (t : String) :
    ((faultyBoundary f).setOuterString a t).run s =
      ⟨(), ⟨s.outers.update a fun x => { x with string := f.overwritten x.string t }, s.cells,
        s.next⟩, []⟩ := rfl

/-- With the fault, the getter hands out the cell of the outer struct itself. -/
theorem run_outerInner_shared (h : f.aliasGet = true) :
    ((faultyBoundary f).outerInner a).run s = ⟨(s.outer a).cell, s, []⟩ := by
  simp [faultyBoundary, h]

/-- Without the fault, the getter hands out a new cell. -/
theorem run_outerInner_copied (h : f.aliasGet = false) :
    ((faultyBoundary f).outerInner a).run s =
      ⟨s.next, ⟨s.outers, (s.next, s.cell (s.outer a).cell) :: s.cells, s.next + 1⟩, []⟩ := by
  simp only [faultyBoundary, h, Action.run_bind, Action.run_gets]
  rfl

/-- The store after a nested struct was copied into an outer one. -/
def withInner (f : Faults) (a b : Nat) (s : SharedStore) : SharedStore :=
  let s' : SharedStore :=
    if f.aliasSet then { s with outers := s.outers.update a fun x => { x with cell := b } }
    else { s with cells := s.cells.update (s.outer a).cell fun _ => s.cell b }
  if f.clobberSibling then
    { s' with outers := s'.outers.update a fun x => { x with int32 := s.cell b } }
  else s'

/-- The setter of the nested struct copies its cell, or shares it with the fault. -/
theorem run_setOuterInner :
    ((faultyBoundary f).setOuterInner a b).run s = ⟨(), withInner f a b s, []⟩ := by
  simp only [faultyBoundary, withInner]
  cases f.aliasSet <;> cases f.clobberSibling <;> rfl

theorem run_innerInt32 : ((faultyBoundary f).innerInt32 b).run s = ⟨s.cell b, s, []⟩ := rfl

/-- The integer of a nested struct is stored with the same faults. -/
theorem run_setInnerInt32 (n : Int32) :
    ((faultyBoundary f).setInnerInt32 b n).run s =
      ⟨(), ⟨s.outers, s.cells.update b fun _ => f.stored n, s.next⟩, []⟩ := rfl

end SharedStore

end BoundaryContract
