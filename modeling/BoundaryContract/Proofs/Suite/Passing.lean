import BoundaryContract.Suite

/-!
# Passing the suite

A run of the suite reports no failed check exactly when all its checks passed, and its checks are
those of its groups, which are those of their probes. So whether a boundary passes can be settled
probe by probe: `Passes a s` says that the action `a`, made in the state `s`, gives passed checks
only, and the lemmas here take it apart along the way the suite is put together.
-/

namespace BoundaryContract

/-- A report counts no failure when all its checks have passed. -/
theorem Report.failed_eq_zero (r : Report) : r.failed = 0 ↔ ∀ c ∈ r.checks, c.passed = true := by
  have hle : r.passed ≤ r.total := List.countP_le_length
  rw [← List.countP_eq_length]
  show r.total - r.passed = 0 ↔ r.passed = r.total
  omega

namespace Suite

variable {σ ω ι : Type}

/-- Every check that the action gives has passed. -/
def Passes (a : Action σ (List Check)) (s : σ) : Prop := ∀ c ∈ (a.run s).value, c.passed = true

variable {tier : Tier} {s : σ} {a b : Action σ (List Check)}

/-! ### Sequences -/

theorem passes_bind {α : Type} {a : Action σ α} {k : α → Action σ (List Check)} :
    Passes (a >>= k) s ↔ Passes (k (a.run s).value) (a.run s).state :=
  Iff.rfl

/-- What follows the checks may leave them as they are. -/
theorem passes_bind_of_value {k : List Check → Action σ (List Check)}
    (hk : ∀ checks s, ((k checks).run s).value = checks) : Passes (a >>= k) s ↔ Passes a s := by
  rw [Passes, Action.run_bind, hk, Passes]

/-! ### Probes -/

@[simp] theorem passes_runProbes_nil : Passes (runProbes tier []) s := List.forall_mem_nil _

/-- A probe passes if it measures what it expects, and the next one is made in the state that it
leaves. -/
@[simp] theorem passes_runProbes_cons {p : Probe σ} {ps : List (Probe σ)} :
    Passes (runProbes tier (p :: ps)) s ↔
      (p.measure.run s).value = p.expected ∧
        Passes (runProbes tier ps) (p.measure.run s).state := by
  simp only [Passes, runProbes, Probe.run, Action.run_bind, Action.run_emit, Action.run_pure,
    List.forall_mem_cons, Check.ofValues, decide_eq_true_eq, eq_comm (a := p.expected)]

@[simp] theorem state_runProbes_nil : ((runProbes tier []).run s).state = s := rfl

@[simp] theorem state_runProbes_cons {p : Probe σ} {ps : List (Probe σ)} :
    ((runProbes tier (p :: ps)).run s).state =
      ((runProbes tier ps).run (p.measure.run s).state).state := rfl

/-- Probes in two parts pass when the second part passes from where the first one ends. -/
theorem passes_runProbes_append {ps qs : List (Probe σ)} :
    Passes (runProbes tier (ps ++ qs)) s ↔
      Passes (runProbes tier ps) s ∧
        Passes (runProbes tier qs) ((runProbes tier ps).run s).state := by
  induction ps generalizing s with
  | nil => exact ⟨fun h => ⟨passes_runProbes_nil, h⟩, And.right⟩
  | cons p ps ih =>
    rw [List.cons_append, passes_runProbes_cons, passes_runProbes_cons, ih, and_assoc]
    rfl

/-- Probes that leave the state as it is are all made in the same state. -/
theorem passes_runProbes_iff_forall {ps : List (Probe σ)}
    (h : ∀ p ∈ ps, (p.measure.run s).state = s) :
    Passes (runProbes tier ps) s ↔ ∀ p ∈ ps, (p.measure.run s).value = p.expected := by
  induction ps with
  | nil => exact ⟨fun _ => List.forall_mem_nil _, fun _ => passes_runProbes_nil⟩
  | cons p ps ih =>
    obtain ⟨hp, hps⟩ := List.forall_mem_cons.mp h
    rw [passes_runProbes_cons, List.forall_mem_cons, hp, ih hps]

/-! ### Groups -/

/-- Groups pass when the first one does and the rest from where it ends. -/
theorem passes_runGroups_cons {group : Action σ (List Check)}
    {rest : List (Action σ (List Check))} :
    Passes (runGroups (group :: rest)) s ↔
      Passes group s ∧ Passes (runGroups rest) (group.run s).state :=
  List.forall_mem_append

theorem passes_runGroups_nil : Passes (runGroups []) s := List.forall_mem_nil _

/-- A run between its first and its last event. The checks are those of any groups, so that nothing
is computed from the groups of the suite here. -/
private theorem checks_run (backend : String) (groups : List (Action σ (List Check))) :
    ((do
      Action.emit (started backend tier)
      let checks ← runGroups groups
      let report : Report := ⟨backend, tier, checks⟩
      Action.emit (finished report)
      return report : Action σ Report).run s).value.checks = ((runGroups groups).run s).value :=
  rfl

/-- The checks of a run are those of its groups. -/
theorem checks_run_eq (B : Boundary σ ω ι) (tier : Tier) (s : σ) :
    ((run B tier).run s).value.checks = ((runGroups (groups B tier)).run s).value := by
  rw [run, checks_run]

/-- A run of the suite reports no failed check exactly when every group passes. -/
theorem failed_run_eq_zero {B : Boundary σ ω ι} :
    ((run B tier).run s).value.failed = 0 ↔ Passes (runGroups (groups B tier)) s := by
  rw [Report.failed_eq_zero, checks_run_eq, Passes]

end Suite

end BoundaryContract
