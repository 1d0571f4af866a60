import BoundaryContract.Proofs.Boundary.Handles
import BoundaryContract.Proofs.Boundary.Native
import BoundaryContract.Proofs.Boundary.Simulation
import BoundaryContract.Proofs.Suite.Passing

/-!
# Agreement of conforming boundaries

The suite raises no false alarm: on every boundary that simulates plain values it records exactly
the checks that it records on the native boundary, all of them passed
(`Suite.checks_eq_of_simulates`).

There are two halves to this. What the checks are about, their names, the calls they make and the
values they expect, is the same for every boundary, right or wrong (`Suite.subjects_run`). And on a
boundary that simulates plain values every actual value is the expected one (`Suite.meets_groups`),
for which the relation to the store is carried from probe to probe. A check that is met is known
from what it is about.
-/

namespace BoundaryContract

namespace Check

/-- What a check is about: its name, the call it makes and the value it expects. -/
def subject (c : Check) : String × String × Value := (c.name, c.call, c.expected)

/-- The check has passed, and rightly so. -/
structure Met (c : Check) : Prop where
  passed : c.passed = true
  actual : c.actual = c.expected

/-- Checks that are met are known from what they are about. -/
theorem eq_of_subject_eq {cs cs' : List Check} (hcs : ∀ c ∈ cs, c.Met) (hcs' : ∀ c ∈ cs', c.Met)
    (h : cs.map subject = cs'.map subject) : cs = cs' := by
  induction cs generalizing cs' with
  | nil => exact (List.map_eq_nil_iff.mp h.symm).symm
  | cons c cs ih =>
    obtain ⟨c', cs', rfl, hc, hrest⟩ := List.map_eq_cons_iff.mp h.symm
    -- the two fields that are not part of the subject are known from being met
    obtain ⟨hpassed, hactual⟩ := hcs c (.head _)
    obtain ⟨hpassed', hactual'⟩ := hcs' c' (.head _)
    obtain ⟨hname, hcall, hexpected⟩ : c'.name = c.name ∧ c'.call = c.call ∧
      c'.expected = c.expected := by simpa [subject] using hc
    have hcc' : c = c' := by
      cases c
      cases c'
      simp_all
    rw [hcc', ih (fun d hd => hcs d (.tail _ hd)) (fun d hd => hcs' d (.tail _ hd)) hrest.symm]

end Check

namespace Suite

variable {σ σ' ω ω' ι ι' : Type} {tier tier' : Tier}

/-! ### What the checks are about -/

/-- What a probe is about. -/
def Probe.subject (p : Probe σ) : String × String × Value := (p.name, p.call, p.expected)

/-- What is recorded is about what the probes are about, whatever they measure. -/
theorem subjects_runProbes (tier : Tier) (ps : List (Probe σ)) (s : σ) :
    ((runProbes tier ps).run s).value.map Check.subject = ps.map Probe.subject := by
  induction ps generalizing s with
  | nil => rfl
  | cons p ps ih =>
    rw [List.map_cons, ← ih (p.measure.run s).state]
    rfl

/-- Two actions give checks about the same, from whatever states. -/
def SameSubjects (a : Action σ (List Check)) (a' : Action σ' (List Check)) : Prop :=
  ∀ s s', (a.run s).value.map Check.subject = (a'.run s').value.map Check.subject

namespace SameSubjects

variable {α α' : Type} {cs cs' : List Check} {ps : List (Probe σ)} {ps' : List (Probe σ')}

theorem pure (h : cs.map Check.subject = cs'.map Check.subject) :
    SameSubjects (Pure.pure cs : Action σ _) (Pure.pure cs' : Action σ' _) :=
  fun _ _ => h

theorem runProbes (h : ps.map Probe.subject = ps'.map Probe.subject) :
    SameSubjects (runProbes tier ps) (runProbes tier' ps') := by
  intro s s'
  rw [subjects_runProbes, subjects_runProbes, h]

/-- Other calls have no part in what the checks are about. -/
theorem bind {a : Action σ α} {a' : Action σ' α'} {k : α → Action σ (List Check)}
    {k' : α' → Action σ' (List Check)} (hk : ∀ x x', SameSubjects (k x) (k' x')) :
    SameSubjects (a >>= k) (a' >>= k') :=
  fun _ _ => hk _ _ _ _

/-- A part that makes checks may be followed by what adds others to them. -/
theorem bind_checks {a : Action σ (List Check)} {a' : Action σ' (List Check)}
    {k : List Check → Action σ (List Check)} {k' : List Check → Action σ' (List Check)}
    (h : SameSubjects a a')
    (hk : ∀ cs cs', cs.map Check.subject = cs'.map Check.subject →
      SameSubjects (k cs) (k' cs')) :
    SameSubjects (a >>= k) (a' >>= k') :=
  fun s s' => hk _ _ (h s s') _ _

theorem append {ds ds' : List Check} (hc : cs.map Check.subject = cs'.map Check.subject)
    (hd : ds.map Check.subject = ds'.map Check.subject) :
    SameSubjects (Pure.pure (cs ++ ds) : Action σ _) (Pure.pure (cs' ++ ds') : Action σ' _) :=
  .pure (by rw [List.map_append, List.map_append, hc, hd])

end SameSubjects

/-- Groups that agree one by one agree as a whole. -/
theorem sameSubjects_runGroups {as : List (Action σ (List Check))}
    {as' : List (Action σ' (List Check))} (h : List.Forall₂ SameSubjects as as') :
    SameSubjects (runGroups as) (runGroups as') := by
  induction h with
  | nil => exact .pure rfl
  | cons ha _ ih => exact ha.bind_checks fun _ _ hc => ih.bind_checks fun _ _ hd => .append hc hd

section

variable (B : Boundary σ ω ι) (B' : Boundary σ' ω' ι')

theorem sameSubjects_defaults : SameSubjects (defaults B tier) (defaults B' tier') :=
  .bind fun _ _ => .bind_checks (.runProbes rfl) fun _ _ h => .bind fun _ _ => .pure h

/-- The samples of integers are the same on every boundary. -/
theorem sameSubjects_int32RoundTrip :
    SameSubjects (int32RoundTrip B tier) (int32RoundTrip B' tier') := by
  refine .bind fun a a' => .bind_checks (.runProbes ?_) fun _ _ h => .bind fun _ _ =>
    .bind fun _ _ => .bind_checks (.runProbes rfl) fun _ _ h' => .bind fun _ _ =>
    .bind fun _ _ => .append h h'
  -- the samples are compared by what is done with each of them, which is the same
  rw [List.map_flatMap, List.map_flatMap]
  rfl

theorem sameSubjects_stringRoundTrip :
    SameSubjects (stringRoundTrip B tier) (stringRoundTrip B' tier') := by
  refine .bind fun a a' => .bind_checks (.runProbes ?_) fun _ _ h => .bind fun _ _ => .pure h
  simp only [stringProbes, List.map_append, List.map_map]
  rfl

theorem sameSubjects_copyOut : SameSubjects (copyOut B tier) (copyOut B' tier') :=
  .bind fun _ _ => .bind fun _ _ => .bind fun _ _ => .bind_checks (.runProbes rfl) fun _ _ h =>
    .bind fun _ _ => .bind fun _ _ => .bind_checks (.runProbes rfl) fun _ _ h' =>
    .bind fun _ _ => .bind fun _ _ => .bind fun _ _ => .append h h'

theorem sameSubjects_comboSelection :
    SameSubjects (comboSelection B tier) (comboSelection B' tier') := by
  refine .runProbes ?_
  rw [List.map_flatMap, List.map_flatMap]
  rfl

/-- Each group makes the same checks of every boundary. -/
theorem sameSubjects_groups :
    List.Forall₂ SameSubjects (groups B tier) (groups B' tier') :=
  .cons (sameSubjects_defaults B B') (.cons (sameSubjects_int32RoundTrip B B')
    (.cons (sameSubjects_stringRoundTrip B B') (.cons (sameSubjects_copyOut B B')
    (.cons (.runProbes rfl) (.cons (.runProbes rfl)
    (.cons (sameSubjects_comboSelection B B') .nil))))))

/-- What the checks of a run are about depends neither on the boundary nor on the tier. -/
theorem subjects_run (s : σ) (s' : σ') :
    ((run B tier).run s).value.checks.map Check.subject =
      ((run B' tier').run s').value.checks.map Check.subject := by
  rw [checks_run_eq, checks_run_eq]
  exact sameSubjects_runGroups (sameSubjects_groups B B') s s'

end

/-! ### What a simulating boundary answers -/

/-- Made in the state, the action gives checks that are met, and the state after it is as
described. -/
def Meets (a : Action σ (List Check)) (s : σ) (P : σ → Prop) : Prop :=
  a.Ensures s fun checks s' => (∀ c ∈ checks, c.Met) ∧ P s'

namespace Meets

variable {s : σ} {P Q : σ → Prop} {p : Probe σ} {ps qs : List (Probe σ)}

theorem nil (h : P s) : Meets (runProbes tier []) s P := ⟨List.forall_mem_nil _, h⟩

/-- A probe that measures what it expects is recorded as a check that is met. -/
theorem cons (hp : p.measure.Ensures s fun v s' => v = p.expected ∧ P s')
    (hps : ∀ {s'}, P s' → Meets (runProbes tier ps) s' Q) :
    Meets (runProbes tier (p :: ps)) s Q := by
  obtain ⟨hv, hP⟩ := hp
  obtain ⟨hchecks, hQ⟩ := hps hP
  exact ⟨List.forall_mem_cons.mpr ⟨⟨decide_eq_true hv.symm, hv⟩, hchecks⟩, hQ⟩

/-- Probes in two parts, where the second part goes on from where the first one ends. -/
theorem append (hps : Meets (runProbes tier ps) s P)
    (hqs : ∀ {s'}, P s' → Meets (runProbes tier qs) s' Q) :
    Meets (runProbes tier (ps ++ qs)) s Q := by
  induction ps generalizing s with
  | nil => exact hqs hps.2
  | cons p ps ih =>
    obtain ⟨hc, hrest⟩ := List.forall_mem_cons.mp hps.1
    obtain ⟨hchecks, hQ⟩ := ih (s := (p.measure.run s).state) ⟨hrest, hps.2⟩
    exact ⟨List.forall_mem_cons.mpr ⟨hc, hchecks⟩, hQ⟩

/-- Probes each of which measures what it expects and keeps what holds before it. -/
theorem of_forall (hp : ∀ p ∈ ps, ∀ {s}, P s →
    p.measure.Ensures s fun v s' => v = p.expected ∧ P s') (h : P s) :
    Meets (runProbes tier ps) s P := by
  induction ps generalizing s with
  | nil => exact .nil h
  | cons p ps ih =>
    obtain ⟨hp, hps⟩ := List.forall_mem_cons.mp hp
    exact .cons (hp h) (ih hps)

/-- Blocks of probes, each of which keeps what holds before it. -/
theorem flatMap {α : Type} {xs : List α} {f : α → List (Probe σ)}
    (hf : ∀ x {s}, P s → Meets (runProbes tier (f x)) s P) (h : P s) :
    Meets (runProbes tier (xs.flatMap f)) s P := by
  induction xs generalizing s with
  | nil => exact .nil h
  | cons x xs ih =>
    rw [List.flatMap_cons]
    exact .append (hf x h) ih

theorem bind {α : Type} {a : Action σ α} {k : α → Action σ (List Check)} {R : α → σ → Prop}
    (h : a.Ensures s R) (hk : ∀ x s', R x s' → Meets (k x) s' P) : Meets (a >>= k) s P :=
  Action.Ensures.bind h hk

theorem bind_checks {a : Action σ (List Check)} {k : List Check → Action σ (List Check)}
    (h : Meets a s P)
    (hk : ∀ {checks s'}, (∀ c ∈ checks, Check.Met c) → P s' → Meets (k checks) s' Q) :
    Meets (a >>= k) s Q :=
  hk h.1 h.2

theorem pure {checks : List Check} (hc : ∀ c ∈ checks, c.Met) (h : P s) :
    Meets (Pure.pure checks) s P :=
  ⟨hc, h⟩

theorem pure_append {cs ds : List Check} (hc : ∀ c ∈ cs, c.Met) (hd : ∀ d ∈ ds, d.Met)
    (h : P s) : Meets (Pure.pure (cs ++ ds)) s P :=
  .pure (List.forall_mem_append.mpr ⟨hc, hd⟩) h

/-- Groups each of which meets its checks and keeps what holds before it. -/
theorem runGroups {as : List (Action σ (List Check))} (ha : ∀ a ∈ as, ∀ {s}, P s → Meets a s P)
    (h : P s) : Meets (runGroups as) s P := by
  induction as generalizing s with
  | nil => exact .pure (List.forall_mem_nil _) h
  | cons a as ih =>
    obtain ⟨ha, has⟩ := List.forall_mem_cons.mp ha
    exact (ha h).bind_checks fun hc h => (ih has h).bind_checks fun hd h => .pure_append hc hd h

end Meets

section

variable {B : Boundary σ ω ι} {R : Holding σ ω ι} {s : σ} {os : Multiset (ω × Outer)}
  {is : Multiset (ι × Inner)} {a : ω} {b : ι} {x : Outer} {y : Inner} (S : Simulates B R)
include S

/-! The measurements of the probes. -/

theorem ensures_outerInt32 (h : R s ((a, x) ::ₘ os) is) :
    (outerInt32 B a).Ensures s fun v s' => v = .int32 x.int32 ∧ R s' ((a, x) ::ₘ os) is :=
  (S.outerInt32 h).map fun _ _ => And.imp_left (congrArg _)

theorem ensures_outerString (h : R s ((a, x) ::ₘ os) is) :
    (outerString B a).Ensures s fun v s' => v = .string x.string ∧ R s' ((a, x) ::ₘ os) is :=
  (S.outerString h).map fun _ _ => And.imp_left (congrArg _)

theorem ensures_innerInt32 (h : R s os ((b, y) ::ₘ is)) :
    (innerInt32 B b).Ensures s fun v s' => v = .int32 y.int32 ∧ R s' os ((b, y) ::ₘ is) :=
  (S.innerInt32 h).map fun _ _ => And.imp_left (congrArg _)

/-- The copy that is read is dropped again. -/
theorem ensures_nestedInt32 (h : R s ((a, x) ::ₘ os) is) :
    (nestedInt32 B a).Ensures s fun v s' =>
      v = .int32 x.inner.int32 ∧ R s' ((a, x) ::ₘ os) is := by
  refine (S.outerInner h).bind fun b _ h => (S.innerInt32 h).bind ?_
  rintro n s' ⟨rfl, h⟩
  exact (S.dropInner h).bind fun _ _ h => .pure ⟨rfl, h⟩

/-- A new nested struct holds zero and is given back. -/
theorem ensures_freshInnerInt32 (h : R s os is) :
    (freshInnerInt32 B).Ensures s fun v s' => v = .int32 0 ∧ R s' os is := by
  refine (S.newInner h).bind fun b _ h => (S.innerInt32 h).bind ?_
  rintro n s' ⟨rfl, h⟩
  exact (S.dropInner h).bind fun _ _ h => .pure ⟨rfl, h⟩

/-- Whatever the struct holds before, the text that is set is read back. -/
theorem ensures_setString (text : String) (h : ∃ x, R s ((a, x) ::ₘ os) is) :
    (do B.setOuterString a text; outerString B a : Action σ Value).Ensures s fun v s' =>
      v = .string text ∧ ∃ x, R s' ((a, x) ::ₘ os) is := by
  obtain ⟨x, h⟩ := h
  exact (S.setOuterString text h).bind fun _ _ h =>
    (ensures_outerString S h).mono fun _ _ => And.imp_right fun h => ⟨_, h⟩

/-- The text that is selected is one of the two that were passed. -/
theorem ensures_combo (str1 str2 : String) (b : Bool) (h : R s os is) :
    (Value.string <$> B.combo str1 str2 b).Ensures s fun v s' =>
      v = .string (if b then str1 else str2) ∧ R s' os is :=
  (S.combo str1 str2 b h).map fun _ _ => And.imp_left (congrArg _)

/-! The groups, each of which gives back what it takes. -/

/-- New structs hold what the suite expects of them. -/
theorem meets_defaults (h : R s os is) : Meets (defaults B tier) s (R · os is) := by
  refine .bind (S.newOuter h) fun a s h => .bind_checks (P := (R · ((a, .default) ::ₘ os) is)) ?_
    fun hc h => .bind (S.dropOuter h) fun _ _ h => .pure hc h
  exact
    .cons (ensures_outerInt32 S h) fun h =>
    .cons ((S.outerBool h).map fun _ _ => And.imp_left (congrArg Value.bool)) fun h =>
    .cons (ensures_outerString S h) fun h =>
    .cons (ensures_nestedInt32 S h) fun h =>
    .cons (ensures_freshInnerInt32 S h) fun h => .nil h

/-- Whatever the struct holds before, the integer that is set is read back twice. -/
theorem meets_int32Probes (n : Int32) (h : ∃ x, R s ((a, x) ::ₘ os) is) :
    Meets (runProbes tier (int32Probes B a n)) s fun s' => ∃ x, R s' ((a, x) ::ₘ os) is := by
  obtain ⟨x, h⟩ := h
  exact
    .cons ((S.setOuterInt32 n h).bind fun _ _ h => ensures_outerInt32 S h) fun h =>
    .cons (ensures_outerInt32 S h) fun h => .nil ⟨_, h⟩

/-- Every integer comes back from both kinds of structs. -/
theorem meets_int32RoundTrip (h : R s os is) : Meets (int32RoundTrip B tier) s (R · os is) := by
  refine .bind (S.newOuter h) fun a s h =>
    .bind_checks (.flatMap (fun n _ => meets_int32Probes S n) ⟨_, h⟩) fun hc h => ?_
  obtain ⟨x, h⟩ := h
  exact
    .bind (S.newInner h) fun b _ h => .bind (S.setInnerInt32 (-42) h) fun _ _ h =>
    .bind_checks (.cons (ensures_innerInt32 S h) fun h => .nil h) fun hd h =>
    .bind (S.dropInner h) fun _ _ h => .bind (S.dropOuter h) fun _ _ h => .pure_append hc hd h

/-- Every text comes back, the owned one too. -/
theorem meets_stringRoundTrip (h : R s os is) :
    Meets (stringRoundTrip B tier) s (R · os is) := by
  refine .bind (S.newOuter h) fun a s h =>
    .bind_checks (P := fun s => ∃ x, R s ((a, x) ::ₘ os) is) (.of_forall ?_ ⟨_, h⟩)
    fun hc ⟨x, h⟩ => .bind (S.dropOuter h) fun _ _ h => .pure hc h
  simp only [stringProbes, List.forall_mem_append, List.forall_mem_map, List.forall_mem_singleton]
  exact ⟨⟨fun entry _ => ensures_setString S entry.1, ensures_setString S ownedSample⟩,
    fun h => .pure ⟨rfl, h⟩⟩

/-- The copy has the integer that is set in it, and the struct it comes from keeps its own. -/
theorem meets_copyProbes (h : R s ((a, x) ::ₘ os) ((b, y) ::ₘ is)) (hx : x.inner = .default) :
    Meets (runProbes tier (copyProbes B a b)) s
      (R · ((a, x) ::ₘ os) ((b, ⟨43⟩) ::ₘ is)) := by
  refine
    .cons ((S.setInnerInt32 43 h).bind fun _ _ h => ensures_innerInt32 S h) fun h =>
    .cons (.mono (ensures_nestedInt32 S h) fun _ _ => And.imp_left fun hv => ?_) fun h => .nil h
  rw [hv, hx]
  rfl

/-- The struct has the integer of the nested struct at the time it was stored, not a later one. -/
theorem meets_storedProbes (h : R s ((a, x) ::ₘ os) ((b, ⟨44⟩) ::ₘ is)) (hx : x.int32 = 42) :
    Meets (runProbes tier (storedProbes B a b)) s
      (R · ((a, { x with inner := ⟨44⟩ }) ::ₘ os) ((b, ⟨45⟩) ::ₘ is)) :=
  .cons ((S.setOuterInner h).bind fun _ _ h => ensures_nestedInt32 S h) fun h =>
  .cons ((S.setInnerInt32 45 h).bind fun _ _ h => ensures_nestedInt32 S h) fun h =>
  .cons (ensures_innerInt32 S h) fun h =>
  .cons (.mono (ensures_outerInt32 S h) fun _ _ => And.imp_left fun hv => hv.trans (congrArg _ hx))
    fun h => .nil h

/-- Copies share nothing with what they are taken from. -/
theorem meets_copyOut (h : R s os is) : Meets (copyOut B tier) s (R · os is) :=
  .bind (S.newOuter h) fun _ _ h => .bind (S.setOuterInt32 42 h) fun _ _ h =>
  .bind (S.outerInner h) fun _ _ h => .bind_checks (meets_copyProbes S h rfl) fun hc h =>
  .bind (S.newInner h) fun _ _ h => .bind (S.setInnerInt32 44 h) fun _ _ h =>
  .bind_checks (meets_storedProbes S h rfl) fun hd h =>
  .bind (S.dropInner h) fun _ _ h => .bind (S.dropInner h) fun _ _ h =>
  .bind (S.dropOuter h) fun _ _ h => .pure_append hc hd h

/-- The functions without a result leave everything as it is. -/
theorem meets_voidFunctions (h : R s os is) : Meets (voidFunctions B tier) s (R · os is) :=
  .cons ((S.simple h).map fun _ _ h => ⟨rfl, h⟩) fun h =>
  .cons ((S.primitiveArgs 3 true h).map fun _ _ h => ⟨rfl, h⟩) fun h =>
  .cons ((S.stringArg "Hello, World!" h).map fun _ _ h => ⟨rfl, h⟩) fun h =>
  .cons ((S.primitiveAndStringArg 42 false "Complex function!" h).map fun _ _ h => ⟨rfl, h⟩)
    fun h => .nil h

theorem meets_fixedReturns (h : R s os is) : Meets (fixedReturns B tier) s (R · os is) :=
  .cons ((S.returnPrimitive h).map fun _ _ => And.imp_left (congrArg Value.int32)) fun h =>
  .cons ((S.returnString h).map fun _ _ => And.imp_left (congrArg Value.string)) fun h => .nil h

theorem meets_comboSelection (h : R s os is) : Meets (comboSelection B tier) s (R · os is) :=
  .flatMap (fun _ _ h =>
    .cons (ensures_combo S _ _ true h) fun h =>
    .cons (ensures_combo S _ _ false h) fun h => .nil h) h

/-- The groups give checks that are met, one group after the other. -/
theorem meets_groups (h : R s os is) : Meets (runGroups (groups B tier)) s (R · os is) := by
  refine .runGroups ?_ h
  simp only [groups, List.forall_mem_cons]
  exact ⟨meets_defaults S, meets_int32RoundTrip S, meets_stringRoundTrip S, meets_copyOut S,
    meets_voidFunctions S, meets_fixedReturns S, meets_comboSelection S, List.forall_mem_nil _⟩

/-- On a boundary that simulates plain values, from a state to which any store is related, the
suite records what it records on the native boundary. All the checks passed, with the values that
they expect, so the run is a success. -/
theorem checks_eq_of_simulates (h : R s os is) (tier tier' : Tier) (n : Store) :
    let report := ((run B tier).run s).value
    report.checks = ((run nativeBoundary.toBoundary tier').run n).value.checks ∧
    (∀ c ∈ report.checks, c.passed = true ∧ c.actual = c.expected) ∧
    report.failed = 0 ∧ report.isSuccess ∧ report.toResult = .ok report := by
  intro report
  have hmet : ∀ c ∈ report.checks, c.Met := by
    rw [checks_run_eq]
    exact (meets_groups S h).1
  have hnative : ∀ c ∈ ((run nativeBoundary.toBoundary tier').run n).value.checks, c.Met := by
    rw [checks_run_eq]
    exact (meets_groups nativeBoundary_serves.simulates (.zero n)).1
  have hfailed : report.failed = 0 := report.failed_eq_zero.mpr fun c hc => (hmet c hc).passed
  have hsuccess : report.isSuccess := by simp [Report.isSuccess, hfailed]
  exact ⟨Check.eq_of_subject_eq hmet hnative (subjects_run ..),
    fun c hc => ⟨(hmet c hc).passed, (hmet c hc).actual⟩, hfailed, hsuccess,
    if_pos hsuccess⟩

end

/-- The boundary of handles before any call, with nothing held yet. -/
theorem checks_handleBoundary_eq :
    let R : Holding Abi.State Abi.Pointer Abi.Pointer := Abi.State.Bears 0
    let report := ((run (handleBoundary 0).toBoundary .asserted).run .empty).value
    (Simulates (handleBoundary 0).toBoundary R ∧ R .empty 0 0) ∧
    report.checks = ((run nativeBoundary.toBoundary .asserted).run Store.empty).value.checks ∧
    (∀ c ∈ report.checks, c.passed = true ∧ c.actual = c.expected) ∧
    report.failed = 0 ∧ report.isSuccess ∧ report.toResult = .ok report := by
  have hS := (handleBoundary_serves 0 0).simulates
  have h : Abi.State.Bears 0 .empty 0 0 := Abi.State.Owned.zero .empty
  exact ⟨⟨hS, h⟩, checks_eq_of_simulates hS h .asserted .asserted Store.empty⟩

end Suite

end BoundaryContract
