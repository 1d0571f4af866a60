/-!
# Tables

A table maps keys that are handed out in sequence to entries, newest first. Looking a key up after a
change gives what the change says, and other keys keep their entries.
-/

namespace BoundaryContract

/-- Entries under numbered keys. -/
abbrev Table (α : Type) := List (Nat × α)

namespace Table

variable {α : Type}

/-- The entry under a key. -/
def get? (key : Nat) : Table α → Option α
  | [] => none
  | (k, a) :: rest => if k = key then some a else get? key rest

/-- Changes the entry under a key, if there is one. -/
def update (key : Nat) (f : α → α) : Table α → Table α
  | [] => []
  | (k, a) :: rest => if k = key then (k, f a) :: rest else (k, a) :: update key f rest

/-- Removes the entry under a key. -/
def erase (key : Nat) : Table α → Table α
  | [] => []
  | (k, a) :: rest => if k = key then rest else (k, a) :: erase key rest

/-- The keys of a table. -/
def keys (t : Table α) : List Nat := t.map Prod.fst

@[simp] theorem get?_nil (key : Nat) : get? key ([] : Table α) = none := rfl

@[simp] theorem get?_cons (key k : Nat) (a : α) (t : Table α) :
    get? key ((k, a) :: t) = if k = key then some a else get? key t := rfl

/-- Only the entry under the key that is changed changes. -/
theorem get?_update (key other : Nat) (f : α → α) (t : Table α) :
    get? key (update other f t) = if other = key then (get? key t).map f else get? key t := by
  induction t with
  | nil => simp [update]
  | cons entry t ih =>
    obtain ⟨k, a⟩ := entry
    by_cases h : k = other
    · by_cases h' : other = key <;> simp_all [update]
    · by_cases h' : k = key
      · have : other ≠ key := fun e => h (h'.trans e.symm)
        simp_all [update]
      · simp_all [update]

/-- Erasing leaves the other keys alone. -/
theorem get?_erase_of_ne {key other : Nat} (h : other ≠ key) (t : Table α) :
    get? key (erase other t) = get? key t := by
  induction t with
  | nil => rfl
  | cons entry t ih =>
    obtain ⟨k, a⟩ := entry
    by_cases h' : k = other <;> simp_all [erase]

/-- Changing an entry leaves the keys alone. -/
@[simp] theorem keys_update (key : Nat) (f : α → α) (t : Table α) :
    keys (update key f t) = keys t := by
  induction t with
  | nil => rfl
  | cons entry t ih =>
    obtain ⟨k, a⟩ := entry
    by_cases h : k = key
    · simp [update, keys, h]
    · simpa [update, keys, h] using ih

end Table

end BoundaryContract
