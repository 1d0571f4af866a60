import BoundaryContract.Table
import Mathlib.Data.Multiset.MapFold

/-!
# Tables with sequential keys, and entries that are held

`Table.Fresh t next` says of a table as a whole that its keys were handed out in sequence: none
occurs twice, and all are below `next`, so the next new entry gets a key of its own.

Whoever works with a table of live structs holds some of its keys and expects an entry under each of
them. `Table.Keeps t next es` says that the table has what its holders expect: `es` lists the keys
they hold, each as a pointer and with the entry expected there, no key is held twice, and every held
key was handed out before `next`.

The three operations on a table are the three rules of holding: an entry added under `next` is held
from then on (`Keeps.insert`), a change through one key changes what is expected there and nowhere
else (`Keeps.update`), and a key that is given up stops being held without disturbing the others
(`Keeps.erase`).
-/

namespace BoundaryContract.Table

variable {α : Type} {t : Table α} {next k : Nat} {x : α} {es : Multiset (Option Nat × α)}

/-! ### Sequential keys -/

theorem get?_cons_self (k : Nat) (x : α) (t : Table α) : get? k ((k, x) :: t) = some x :=
  if_pos rfl

/-- What is found has its key in the table. -/
theorem mem_keys_of_get? (h : t.get? k = some x) : k ∈ t.keys := by
  induction t with
  | nil => cases h
  | cons e t ih =>
    obtain ⟨j, y⟩ := e
    rw [get?_cons] at h
    by_cases hj : j = k
    · exact List.mem_cons.mpr (.inl hj.symm)
    · rw [if_neg hj] at h
      exact List.mem_cons_of_mem _ (ih h)

theorem get?_of_notMem (h : k ∉ t.keys) : t.get? k = none :=
  Option.eq_none_iff_forall_ne_some.mpr fun _ hx => h (mem_keys_of_get? hx)

/-- Erasing strikes one occurrence of the key. -/
theorem keys_erase (k : Nat) (t : Table α) : (t.erase k).keys = t.keys.erase k := by
  induction t with
  | nil => rfl
  | cons e t ih =>
    obtain ⟨j, y⟩ := e
    by_cases hj : j = k
    · simp [erase, keys, hj]
    · rw [erase, if_neg hj, keys, List.map_cons, keys, List.map_cons,
        List.erase_cons_tail (by simpa using hj)]
      exact congrArg (j :: ·) ih

/-- The keys of the table were handed out in sequence, and `next` comes after all of them. -/
structure Fresh (t : Table α) (next : Nat) : Prop where
  nodup : t.keys.Nodup
  below : ∀ k ∈ t.keys, k < next

namespace Fresh

theorem nil (next : Nat) : Fresh ([] : Table α) next := ⟨.nil, nofun⟩

theorem get?_next (h : t.Fresh next) : t.get? next = none :=
  get?_of_notMem fun hmem => Nat.lt_irrefl _ (h.below _ hmem)

/-- A new entry takes the next key. -/
theorem insert (h : t.Fresh next) (x : α) : Fresh ((next, x) :: t) (next + 1) := by
  refine ⟨List.nodup_cons.mpr ⟨fun hmem => Nat.lt_irrefl _ (h.below _ hmem), h.nodup⟩, ?_⟩
  intro k hk
  rcases List.mem_cons.mp hk with rfl | hk
  · exact Nat.lt_succ_self _
  · exact Nat.lt_succ_of_lt (h.below k hk)

theorem update (h : t.Fresh next) (k : Nat) (f : α → α) : (t.update k f).Fresh next := by
  obtain ⟨hnodup, hbelow⟩ := h
  rw [← keys_update k f t] at hnodup hbelow
  exact ⟨hnodup, hbelow⟩

/-- Erasing an entry never makes a key free for reuse. -/
theorem erase (h : t.Fresh next) (k : Nat) : (t.erase k).Fresh next := by
  refine ⟨?_, ?_⟩
  · rw [keys_erase]
    exact h.nodup.erase k
  · intro j hj
    rw [keys_erase] at hj
    exact h.below j (List.mem_of_mem_erase hj)

/-- An erased key has no entry any more. -/
theorem get?_erase (h : t.Fresh next) (k : Nat) : (t.erase k).get? k = none := by
  refine get?_of_notMem ?_
  rw [keys_erase]
  exact h.nodup.not_mem_erase

end Fresh

/-! ### Held keys -/

/-- The table has the entries that the holders of its keys expect. -/
structure Keeps (t : Table α) (next : Nat) (es : Multiset (Option Nat × α)) : Prop where
  /-- Every held key was handed out before `next` and has the expected entry. -/
  entry : ∀ e ∈ es, ∃ k < next, e.1 = some k ∧ t.get? k = some e.2
  /-- No key is held twice. -/
  nodup : (es.map Prod.fst).Nodup

namespace Keeps

theorem zero (t : Table α) (next : Nat) : t.Keeps next 0 :=
  ⟨fun e he => absurd he (Multiset.notMem_zero e), by simp⟩

/-- The entry under the key that is held first, and the rest of what is held. -/
theorem head {p : Option Nat} (h : t.Keeps next ((p, x) ::ₘ es)) :
    ∃ k < next, p = some k ∧ t.get? k = some x :=
  h.entry (p, x) (Multiset.mem_cons_self _ _)

theorem get? (h : t.Keeps next ((some k, x) ::ₘ es)) : t.get? k = some x := by
  obtain ⟨j, -, hj, hx⟩ := h.head
  rwa [Option.some.inj hj]

theorem tail {e : Option Nat × α} (h : t.Keeps next (e ::ₘ es)) : t.Keeps next es := by
  obtain ⟨hentry, hnodup⟩ := h
  rw [Multiset.map_cons, Multiset.nodup_cons] at hnodup
  exact ⟨fun e' he' => hentry e' (Multiset.mem_cons_of_mem he'), hnodup.2⟩

/-- The keys held besides a given one are other keys. -/
theorem ne_of_mem (h : t.Keeps next ((some k, x) ::ₘ es)) {e : Option Nat × α} (he : e ∈ es) :
    e.1 ≠ some k := by
  have hnodup := h.nodup
  rw [Multiset.map_cons, Multiset.nodup_cons] at hnodup
  exact fun hk => hnodup.1 (Multiset.mem_map.mpr ⟨e, he, hk⟩)

theorem mono {next' : Nat} (hle : next ≤ next') (h : t.Keeps next es) : t.Keeps next' es := by
  refine ⟨fun e he => ?_, h.nodup⟩
  obtain ⟨k, hk, hp, hx⟩ := h.entry e he
  exact ⟨k, hk.trans_le hle, hp, hx⟩

/-- A key that was not handed out yet is held by nobody. -/
theorem next_notMem (h : t.Keeps next es) : some next ∉ es.map Prod.fst := by
  intro hmem
  obtain ⟨e, he, hnext⟩ := Multiset.mem_map.mp hmem
  obtain ⟨k, hk, hp, -⟩ := h.entry e he
  have : k = next := Option.some.inj (hp.symm.trans hnext)
  omega

/-- A new entry is held under its new key, beside everything held before. -/
theorem insert (h : t.Keeps next es) (x : α) :
    Keeps ((next, x) :: t) (next + 1) ((some next, x) ::ₘ es) := by
  refine ⟨fun e he => ?_, ?_⟩
  · rcases Multiset.mem_cons.mp he with rfl | he
    · exact ⟨next, by omega, rfl, by simp⟩
    · obtain ⟨k, hk, hp, hx⟩ := h.entry e he
      refine ⟨k, by omega, hp, ?_⟩
      rw [get?_cons, if_neg (by omega), hx]
  · rw [Multiset.map_cons, Multiset.nodup_cons]
    exact ⟨h.next_notMem, h.nodup⟩

/-- A change through one key changes what is expected there and leaves the rest. -/
theorem update (h : t.Keeps next ((some k, x) ::ₘ es)) (f : α → α) :
    (t.update k f).Keeps next ((some k, f x) ::ₘ es) := by
  refine ⟨fun e he => ?_, by simpa using h.nodup⟩
  rcases Multiset.mem_cons.mp he with rfl | he
  · obtain ⟨j, hj, hp, hx⟩ := h.head
    obtain rfl : k = j := Option.some.inj hp
    exact ⟨k, hj, rfl, by rw [get?_update, if_pos rfl, hx, Option.map_some]⟩
  · -- no key is held twice, so the change is made under another one
    obtain ⟨j, hj, hp, hx⟩ := h.tail.entry e he
    have hkj : k ≠ j := fun hkj => h.ne_of_mem he (hkj ▸ hp)
    exact ⟨j, hj, hp, by rw [get?_update, if_neg hkj, hx]⟩

/-- A key that is given up leaves the others as they were. -/
theorem erase (h : t.Keeps next ((some k, x) ::ₘ es)) : (t.erase k).Keeps next es := by
  refine ⟨fun e he => ?_, h.tail.nodup⟩
  obtain ⟨j, hj, hp, hx⟩ := h.tail.entry e he
  have hkj : k ≠ j := fun hkj => h.ne_of_mem he (hkj ▸ hp)
  exact ⟨j, hj, hp, by rw [get?_erase_of_ne hkj, hx]⟩

end Keeps

end BoundaryContract.Table
