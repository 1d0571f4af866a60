import BoundaryContract.Client
import Mathlib.Data.Multiset.MapFold

/-!
# Slots

What `put` and `remove` do to the slots of a client: to what the slots hold taken together, and
under a change of what they hold. A client's references and the values behind them are two views of
one memory, whose slots hold both (`Memory.refs` and `Memory.values`), so a lemma about one of the
views is a lemma about `Slots.map`.
-/

namespace BoundaryContract.Client

namespace Slots

variable {α β : Type} {n : String} {a b : α} {slots : Slots α}

/-- What the slots hold, taken together. -/
def held (slots : Slots α) : Multiset α := (slots.map Prod.snd : List α)

/-- The same slots holding something else. -/
def map (f : α → β) (slots : Slots α) : Slots β := List.map (Prod.map id f) slots

@[simp] theorem held_nil : held ([] : Slots α) = 0 := rfl

@[simp] theorem held_cons (e : String × α) (slots : Slots α) :
    held (e :: slots) = e.2 ::ₘ held slots := rfl

@[simp] theorem card_held (slots : Slots α) : slots.held.card = slots.length := by
  simp [held]

private theorem lookup_cons_of_ne {m : String} (hm : m ≠ n) :
    List.lookup n ((m, b) :: slots) = slots.lookup n := by
  rw [List.lookup_cons, beq_false_of_ne (Ne.symm hm)]

/-- A filled slot holds one of the things held, and removing it takes that one away. -/
theorem held_of_lookup (h : slots.lookup n = some a) :
    slots.held = a ::ₘ (slots.remove n).held := by
  induction slots with
  | nil => simp at h
  | cons e slots ih =>
    obtain ⟨m, b⟩ := e
    by_cases hm : m = n
    · subst hm
      obtain rfl := Option.some.inj (List.lookup_cons_self.symm.trans h)
      simp [remove]
    · rw [lookup_cons_of_ne hm] at h
      rw [remove, if_neg hm, held_cons, held_cons, ih h]
      exact Multiset.cons_swap _ _ _

/-- Emptying an empty slot changes nothing. -/
theorem remove_of_lookup_none (h : slots.lookup n = none) : slots.remove n = slots := by
  induction slots with
  | nil => rfl
  | cons e slots ih =>
    obtain ⟨m, b⟩ := e
    by_cases hm : m = n
    · simp [hm] at h
    · rw [lookup_cons_of_ne hm] at h
      rw [remove, if_neg hm, ih h]

/-- What is put into a slot takes the place of what the slot held. -/
theorem held_put (n : String) (a : α) (slots : Slots α) :
    (slots.put n a).held = a ::ₘ (slots.remove n).held := by
  induction slots with
  | nil => rfl
  | cons e slots ih =>
    obtain ⟨m, b⟩ := e
    by_cases hm : m = n
    · simp [put, remove, hm]
    · rw [put, if_neg hm, remove, if_neg hm, held_cons, held_cons, ih]
      exact Multiset.cons_swap _ _ _

/-- Putting into a slot what it holds changes nothing. -/
theorem put_of_lookup (h : slots.lookup n = some a) : slots.put n a = slots := by
  induction slots with
  | nil => simp at h
  | cons e slots ih =>
    obtain ⟨m, b⟩ := e
    by_cases hm : m = n
    · subst hm
      obtain rfl := Option.some.inj (List.lookup_cons_self.symm.trans h)
      simp [put]
    · rw [lookup_cons_of_ne hm] at h
      rw [put, if_neg hm, ih h]

/-- A slot of the image holds the image. -/
@[simp] theorem lookup_map (f : α → β) (n : String) (slots : Slots α) :
    (slots.map f).lookup n = (slots.lookup n).map f := by
  induction slots with
  | nil => rfl
  | cons e slots ih =>
    obtain ⟨m, b⟩ := e
    rw [map] at ih ⊢
    rw [List.map_cons, Prod.map_apply, List.lookup_cons, List.lookup_cons, ih, id]
    cases n == m <;> rfl

/-- Putting commutes with taking images. -/
theorem map_put (f : α → β) (n : String) (a : α) (slots : Slots α) :
    (slots.put n a).map f = (slots.map f).put n (f a) := by
  induction slots with
  | nil => rfl
  | cons e slots ih =>
    obtain ⟨m, b⟩ := e
    by_cases hm : m = n <;> simp_all [put, map]

/-- Emptying commutes with taking images. -/
theorem map_remove (f : α → β) (n : String) (slots : Slots α) :
    (slots.remove n).map f = (slots.map f).remove n := by
  induction slots with
  | nil => rfl
  | cons e slots ih =>
    obtain ⟨m, b⟩ := e
    by_cases hm : m = n <;> simp_all [remove, map]

@[simp] theorem length_map (f : α → β) (slots : Slots α) :
    (slots.map f).length = slots.length :=
  List.length_map _

end Slots

end BoundaryContract.Client
