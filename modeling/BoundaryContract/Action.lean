import BoundaryContract.Event

/-!
# Actions

A call on a boundary reads and changes the boundary's state and leaves events behind. An `Action` is
such a call: it gives a value, the state after it, and its events in order. Actions compose in
sequence, and the events of a sequence are those of its parts, one after another.
-/

namespace BoundaryContract

/-- What one action gives: its value, the state after it, and its events. -/
structure Outcome (σ α : Type) where
  value : α
  state : σ
  events : List Event

/-- A call on a state that leaves events behind. -/
def Action (σ α : Type) : Type := σ → Outcome σ α

namespace Action

variable {σ α β : Type}

/-- Runs an action from a state. -/
def run (a : Action σ α) (s : σ) : Outcome σ α := a s

instance : Monad (Action σ) where
  pure x := fun s => ⟨x, s, []⟩
  bind a f := fun s =>
    let first := a s
    let second := f first.value first.state
    ⟨second.value, second.state, first.events ++ second.events⟩

/-- An action that gives a part of the state. -/
def gets (f : σ → α) : Action σ α := fun s => ⟨f s, s, []⟩

/-- An action that only changes the state. -/
def modify (f : σ → σ) : Action σ Unit := fun s => ⟨(), f s, []⟩

/-- An action that leaves one event and changes nothing. -/
def emit (e : Event) : Action σ Unit := fun s => ⟨(), s, [e]⟩

/-- Runs an action aside: its events become part of its value instead of leaving it. -/
def capture (a : Action σ α) : Action σ (α × List Event) := fun s =>
  let o := a s
  ⟨(o.value, o.events), o.state, []⟩

@[simp] theorem run_pure (x : α) (s : σ) : (pure x : Action σ α).run s = ⟨x, s, []⟩ := rfl

@[simp] theorem run_gets (f : σ → α) (s : σ) : (gets f).run s = ⟨f s, s, []⟩ := rfl

@[simp] theorem run_modify (f : σ → σ) (s : σ) : (modify f).run s = ⟨(), f s, []⟩ := rfl

@[simp] theorem run_emit (e : Event) (s : σ) : (emit e : Action σ Unit).run s = ⟨(), s, [e]⟩ := rfl

/-- The second action starts in the state that the first one leaves, and its events come after. -/
theorem run_bind (a : Action σ α) (f : α → Action σ β) (s : σ) :
    (a >>= f).run s =
      ⟨((f (a.run s).value).run (a.run s).state).value,
        ((f (a.run s).value).run (a.run s).state).state,
        (a.run s).events ++ ((f (a.run s).value).run (a.run s).state).events⟩ := rfl

instance : LawfulMonad (Action σ) := LawfulMonad.mk' (Action σ)
  (fun a => by
    funext s
    show (⟨(a s).value, (a s).state, (a s).events ++ []⟩ : Outcome σ _) = a s
    rw [List.append_nil])
  (fun _ _ => rfl)
  (fun a f g => by
    funext s
    show (⟨_, _, _⟩ : Outcome σ _) = ⟨_, _, _⟩
    simp [Bind.bind, List.append_assoc])

@[simp] theorem run_map (f : α → β) (a : Action σ α) (s : σ) :
    (f <$> a).run s = ⟨f (a.run s).value, (a.run s).state, (a.run s).events⟩ := by
  rw [map_eq_pure_bind, run_bind]
  simp

end Action

end BoundaryContract
