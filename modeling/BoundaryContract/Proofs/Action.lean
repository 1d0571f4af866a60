import BoundaryContract.Action

/-!
# What actions give

`a.Gives s es Q` says everything about running the action `a` from the state `s` that a user of it
relies on: the events it leaves are exactly `es`, and its value and the state after it satisfy `Q`.
An action always ends, so this is a statement of total correctness. The rules follow the way actions
are put together: what a sequence gives comes from what its parts give, and its events are theirs,
one after another.

`a.Ensures s Q` says the same about the value and the state and leaves the events open.
-/

namespace BoundaryContract.Action

variable {σ α β : Type} {a : Action σ α} {s s' : σ} {es es' : List Event} {P Q : α → σ → Prop}

/-- From a state, an action leaves these events and gives a value and a state as described. -/
def Gives (a : Action σ α) (s : σ) (es : List Event) (Q : α → σ → Prop) : Prop :=
  (a.run s).events = es ∧ Q (a.run s).value (a.run s).state

namespace Gives

theorem of_run {x : α} (h : a.run s = ⟨x, s', es⟩) (hQ : Q x s') : a.Gives s es Q := by
  rw [Gives, h]
  exact ⟨rfl, hQ⟩

theorem mono (h : a.Gives s es P) (hPQ : ∀ x s', P x s' → Q x s') : a.Gives s es Q :=
  ⟨h.1, hPQ _ _ h.2⟩

theorem pure {x : α} (hQ : Q x s) : Gives (Pure.pure x) s [] Q :=
  ⟨rfl, hQ⟩

theorem map {f : α → β} {R : β → σ → Prop} (h : a.Gives s es P)
    (hR : ∀ x s', P x s' → R (f x) s') : (f <$> a).Gives s es R := by
  rw [Gives, run_map]
  exact ⟨h.1, hR _ _ h.2⟩

/-- A sequence leaves the events of its parts, one after another. -/
theorem bind {f : α → Action σ β} {R : β → σ → Prop} (h : a.Gives s es P)
    (hf : ∀ x s', P x s' → (f x).Gives s' es' R) : (a >>= f).Gives s (es ++ es') R := by
  obtain ⟨hes, hP⟩ := h
  obtain ⟨hes', hR⟩ := hf _ _ hP
  rw [Gives, run_bind]
  exact ⟨by rw [hes, hes'], hR⟩

/-- A sequence that begins silently leaves the events of what follows. -/
theorem bind_silent {f : α → Action σ β} {R : β → σ → Prop} (h : a.Gives s [] P)
    (hf : ∀ x s', P x s' → (f x).Gives s' es R) : (a >>= f).Gives s es R :=
  h.bind hf

/-- A sequence that ends silently leaves the events of what it begins with. -/
theorem bind_quiet {f : α → Action σ β} {R : β → σ → Prop} (h : a.Gives s es P)
    (hf : ∀ x s', P x s' → (f x).Gives s' [] R) : (a >>= f).Gives s es R :=
  es.append_nil ▸ h.bind hf

/-- A sequence that begins silently with a known outcome goes on from there. -/
theorem bind_run {x : α} {f : α → Action σ β} {R : β → σ → Prop} (h : a.run s = ⟨x, s', []⟩)
    (hf : (f x).Gives s' es R) : (a >>= f).Gives s es R := by
  rw [Gives, run_bind, h]
  exact hf

/-- Reading a part of the state first changes nothing for what follows. -/
theorem bind_gets {g : σ → α} {f : α → Action σ β} {R : β → σ → Prop}
    (h : (f (g s)).Gives s es R) : (gets g >>= f).Gives s es R :=
  h

/-- An event that is left first comes before the events of what follows. -/
theorem bind_emit {e : Event} {f : Unit → Action σ β} {R : β → σ → Prop}
    (h : (f ()).Gives s es R) : (emit e >>= f).Gives s (e :: es) R :=
  ⟨congrArg (e :: ·) h.1, h.2⟩

end Gives

/-- From a state, an action gives a value and a state as described, whatever events it leaves. -/
def Ensures (a : Action σ α) (s : σ) (Q : α → σ → Prop) : Prop :=
  Q (a.run s).value (a.run s).state

theorem Gives.ensures (h : a.Gives s es Q) : a.Ensures s Q := h.2

namespace Ensures

theorem mono (h : a.Ensures s P) (hPQ : ∀ x s', P x s' → Q x s') : a.Ensures s Q :=
  hPQ _ _ h

theorem pure {x : α} (hQ : Q x s) : Ensures (Pure.pure x) s Q := hQ

theorem map {f : α → β} {R : β → σ → Prop} (h : a.Ensures s P)
    (hR : ∀ x s', P x s' → R (f x) s') : (f <$> a).Ensures s R := by
  rw [Ensures, run_map]
  exact hR _ _ h

theorem bind {f : α → Action σ β} {R : β → σ → Prop} (h : a.Ensures s P)
    (hf : ∀ x s', P x s' → (f x).Ensures s' R) : (a >>= f).Ensures s R :=
  hf _ _ h

end Ensures

end BoundaryContract.Action
