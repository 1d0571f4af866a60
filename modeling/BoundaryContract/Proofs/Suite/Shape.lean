import BoundaryContract.Proofs.Suite.Agreement

/-!
# The shape of a run

Nothing that a boundary answers has an influence on which checks are made or on what they expect,
and the log of a run tells what its report tells. `Suite.run_shape` says so for every boundary,
right or wrong.

The log of a run holds the events of the suite and those of the boundary, mixed. The suite's own are
seen on `Boundary.muted`, which answers like the boundary it is made from and leaves no events. What
the suite does on the two is compared step by step (`Echoes`): the outcome is the same, and the
events left on the muted boundary are those of the checks made so far. The tier may be another one
on the other side, so the comparison says as well that the tier has no part in the outcome.
-/

namespace BoundaryContract

/-! ### Boundaries without events -/

/-- The action without its events. -/
def Action.muted {σ α : Type} (a : Action σ α) : Action σ α := fun s =>
  let o := a.run s
  ⟨o.value, o.state, []⟩

/-- The boundary without its events. -/
def Boundary.muted {σ ω ι : Type} (B : Boundary σ ω ι) : Boundary σ ω ι where
  name := B.name
  newOuter := B.newOuter.muted
  newInner := B.newInner.muted
  dropOuter a := (B.dropOuter a).muted
  dropInner b := (B.dropInner b).muted
  outerInt32 a := (B.outerInt32 a).muted
  setOuterInt32 a n := (B.setOuterInt32 a n).muted
  outerBool a := (B.outerBool a).muted
  outerString a := (B.outerString a).muted
  setOuterString a s := (B.setOuterString a s).muted
  outerInner a := (B.outerInner a).muted
  setOuterInner a b := (B.setOuterInner a b).muted
  innerInt32 b := (B.innerInt32 b).muted
  setInnerInt32 b n := (B.setInnerInt32 b n).muted
  simple := B.simple.muted
  primitiveArgs i b := (B.primitiveArgs i b).muted
  stringArg s := (B.stringArg s).muted
  primitiveAndStringArg i b s := (B.primitiveAndStringArg i b s).muted
  returnPrimitive := B.returnPrimitive.muted
  returnString := B.returnString.muted
  combo str1 str2 b := (B.combo str1 str2 b).muted

/-! ### Events above the level of debugging -/

/-- The event is more important than one that is left for debugging. -/
def Event.aboveDebug (e : Event) : Bool :=
  match e.level with
  | .trace | .debug => false
  | .info | .warn | .error => true

namespace Check

/-- The check has passed if the actual value is the expected one, and not otherwise. -/
def Judged (c : Check) : Prop := c.passed = decide (c.expected = c.actual)

/-- The warning with a failure message. -/
def warning (tier : Tier) (message : String) : Event where
  level := .warn
  title := match tier with
    | .asserted => "Check failed"
    | .smoke => "Smoke check mismatch"
  fields := [("message", .text message)]

/-- Only a check that has not passed has a failure message. -/
theorem failureMessage?_isSome (c : Check) : c.failureMessage?.isSome = !c.passed := by
  unfold failureMessage?
  cases c.passed <;> rfl

/-- A check that has not passed leaves a warning with its failure message. -/
theorem event_of_some {tier : Tier} {c : Check} {message : String}
    (h : c.failureMessage? = some message) : c.event tier = warning tier message := by
  unfold event warning
  rw [h]
  cases tier <;> rfl

/-- What is left by checks above the level of debugging are the warnings of those that have not
passed, in order. -/
theorem filter_aboveDebug_map_event (tier : Tier) (cs : List Check) :
    (cs.map (event tier)).filter Event.aboveDebug =
      (cs.filterMap failureMessage?).map (warning tier) := by
  induction cs with
  | nil => rfl
  | cons c cs ih =>
    cases h : c.failureMessage? with
    | none =>
      have hdebug : (c.event tier).aboveDebug = false := by rw [event, h, Event.aboveDebug]
      rw [List.map_cons, List.filter_cons_of_neg (by rw [hdebug]; exact Bool.false_ne_true), ih,
        List.filterMap_cons_none h]
    | some message =>
      rw [List.map_cons, event_of_some h, List.filter_cons_of_pos rfl, ih,
        List.filterMap_cons_some h, List.map_cons]

end Check

namespace Suite

variable {σ ω ι α β : Type} {tier tier' : Tier}

/-! ### Echoes -/

/-- From every state the second action has the outcome of the first. The events it leaves are those
of some checks, all judged by their values, and at the tier of the first action the events of these
checks are among those that it leaves. -/
def Echoes (tier tier' : Tier) (a a' : Action σ α) (Q : α → List Check → Prop) : Prop :=
  ∀ s, (a'.run s).value = (a.run s).value ∧ (a'.run s).state = (a.run s).state ∧
    ∃ cs : List Check, (∀ c ∈ cs, c.Judged) ∧
      (cs.map (Check.event tier)).Sublist (a.run s).events ∧
      (a'.run s).events = cs.map (Check.event tier') ∧ Q (a.run s).value cs

namespace Echoes

variable {a a' : Action σ α} {f f' : α → Action σ β} {P Q : α → List Check → Prop}
  {R : β → List Check → Prop}

theorem pure {x : α} (h : Q x []) : Echoes tier tier' (Pure.pure x : Action σ α) (Pure.pure x) Q :=
  fun _ => ⟨rfl, rfl, [], List.forall_mem_nil _, .refl _, rfl, h⟩

/-- Muting an action keeps its outcome. -/
theorem muted (a : Action σ α) : Echoes tier tier' a a.muted fun _ cs => cs = [] :=
  fun _ => ⟨rfl, rfl, [], List.forall_mem_nil _, List.nil_sublist _, rfl, rfl⟩

/-- What comes later adds its checks to those made so far. -/
theorem bind (h : Echoes tier tier' a a' P)
    (hf : ∀ x cs, P x cs → Echoes tier tier' (f x) (f' x) fun y ds => R y (cs ++ ds)) :
    Echoes tier tier' (a >>= f) (a' >>= f') R := by
  intro s
  obtain ⟨hvalue, hstate, cs, hjudged, hcs, hevents, hP⟩ := h s
  obtain ⟨hvalue', hstate', ds, hjudged', hds, hevents', hR⟩ := hf _ _ hP (a.run s).state
  rw [Action.run_bind, Action.run_bind, hvalue, hstate, hevents]
  refine ⟨hvalue', hstate', cs ++ ds, List.forall_mem_append.mpr ⟨hjudged, hjudged'⟩, ?_, ?_, hR⟩
  · rw [List.map_append]
    exact hcs.append hds
  · rw [List.map_append, hevents']

/-- What is done on the boundary itself adds no check. -/
theorem bind_muted (hf : ∀ x, Echoes tier tier' (f x) (f' x) R) :
    Echoes tier tier' (a >>= f) (a.muted >>= f') R := by
  refine (muted a).bind ?_
  rintro x _ rfl
  exact hf x

theorem map_muted (g : α → β) :
    Echoes tier tier' (g <$> a) (g <$> a.muted) fun _ cs => cs = [] := by
  rw [map_eq_pure_bind, map_eq_pure_bind]
  exact bind_muted fun _ => .pure rfl

/-- Checks that are made are the ones told of. -/
theorem bind_checks {a a' : Action σ (List Check)} {f f' : List Check → Action σ β}
    (h : Echoes tier tier' a a' Eq)
    (hf : ∀ cs, Echoes tier tier' (f cs) (f' cs) fun y ds => R y (cs ++ ds)) :
    Echoes tier tier' (a >>= f) (a' >>= f') R := by
  refine h.bind ?_
  rintro cs _ rfl
  exact hf cs

end Echoes

/-! ### Probes -/

/-- The second probe is the first one, with a measurement that only echoes. -/
structure Probe.Echoed (tier tier' : Tier) (p p' : Probe σ) : Prop where
  subject : p'.subject = p.subject
  measure : Echoes tier tier' p.measure p'.measure fun _ cs => cs = []

/-- A probe makes one check, and leaves the event of it. -/
theorem echoes_run {p p' : Probe σ} (h : p.Echoed tier tier' p') :
    Echoes tier tier' (p.run tier) (p'.run tier') fun c cs => cs = [c] := by
  obtain ⟨name, call, expected, measure⟩ := p
  obtain ⟨_, _, _, measure'⟩ := p'
  obtain ⟨hsubject, hmeasure⟩ := h
  cases hsubject
  refine hmeasure.bind ?_
  rintro actual _ rfl
  -- the event of the check is the only one that is left at this point
  exact fun s => ⟨rfl, rfl, [.ofValues name call expected actual],
    List.forall_mem_singleton.mpr rfl, .refl _, rfl, rfl⟩

/-- Probes make the checks that they give, in order. -/
theorem echoes_runProbes {ps ps' : List (Probe σ)}
    (h : List.Forall₂ (Probe.Echoed tier tier') ps ps') :
    Echoes tier tier' (runProbes tier ps) (runProbes tier' ps') Eq := by
  induction h with
  | nil => exact .pure rfl
  | cons hp _ ih =>
    refine (echoes_run hp).bind ?_
    rintro c _ rfl
    exact ih.bind_checks fun cs => .pure (List.append_nil _).symm

/-- Blocks of probes are echoed block by block. -/
theorem echoed_flatMap {xs : List α} {f f' : α → List (Probe σ)}
    (h : ∀ x, List.Forall₂ (Probe.Echoed tier tier') (f x) (f' x)) :
    List.Forall₂ (Probe.Echoed tier tier') (xs.flatMap f) (xs.flatMap f') := by
  refine List.rel_flatMap (R := Eq) (List.forall₂_refl xs) ?_
  rintro x _ rfl
  exact h x

/-- Groups make the checks that they give, in order. -/
theorem echoes_runGroups {as as' : List (Action σ (List Check))}
    (h : List.Forall₂ (fun a a' => Echoes tier tier' a a' Eq) as as') :
    Echoes tier tier' (runGroups as) (runGroups as') Eq := by
  induction h with
  | nil => exact .pure rfl
  | cons ha _ ih =>
    exact ha.bind_checks fun cs => ih.bind_checks fun ds => .pure (by rw [List.append_nil])

/-! ### The groups -/

section

variable (B : Boundary σ ω ι) (a : ω) (b : ι)

theorem echoes_nestedInt32 :
    Echoes tier tier' (nestedInt32 B a) (nestedInt32 B.muted a) fun _ cs => cs = [] :=
  .bind_muted fun _ => .bind_muted fun _ => .bind_muted fun _ => .pure rfl

theorem echoes_freshInnerInt32 :
    Echoes tier tier' (freshInnerInt32 B) (freshInnerInt32 B.muted) fun _ cs => cs = [] :=
  .bind_muted fun _ => .bind_muted fun _ => .bind_muted fun _ => .pure rfl

/-- The group of the defaults makes the checks that it gives, on either boundary. -/
theorem echoes_defaults : Echoes tier tier' (defaults B tier) (defaults B.muted tier') Eq := by
  refine .bind_muted fun a => .bind_checks (echoes_runProbes ?_) fun _ => .bind_muted fun _ =>
    .pure (List.append_nil _).symm
  exact .cons ⟨rfl, .map_muted _⟩ (.cons ⟨rfl, .map_muted _⟩ (.cons ⟨rfl, .map_muted _⟩
    (.cons ⟨rfl, echoes_nestedInt32 B a⟩ (.cons ⟨rfl, echoes_freshInnerInt32 B⟩ .nil))))

theorem echoed_int32Probes (n : Int32) :
    List.Forall₂ (Probe.Echoed tier tier') (int32Probes B a n) (int32Probes B.muted a n) :=
  .cons ⟨rfl, .bind_muted fun _ => .map_muted _⟩ (.cons ⟨rfl, .map_muted _⟩ .nil)

/-- The group of the integers makes the checks that it gives. -/
theorem echoes_int32RoundTrip :
    Echoes tier tier' (int32RoundTrip B tier) (int32RoundTrip B.muted tier') Eq := by
  refine .bind_muted fun a => .bind_checks (echoes_runProbes ?_) fun cs => .bind_muted fun b =>
    .bind_muted fun _ => .bind_checks (echoes_runProbes ?_) fun ds => .bind_muted fun _ =>
    .bind_muted fun _ => .pure (by rw [List.append_nil])
  · exact echoed_flatMap (echoed_int32Probes B a)
  · exact .cons ⟨rfl, .map_muted _⟩ .nil

theorem echoed_stringProbes :
    List.Forall₂ (Probe.Echoed tier tier') (stringProbes B a) (stringProbes B.muted a) := by
  refine List.rel_append ?_ (.cons ⟨rfl, .bind_muted fun _ => .map_muted _⟩ .nil)
  rw [List.forall₂_map_left_iff, List.forall₂_map_right_iff, List.forall₂_same]
  exact fun _ _ => ⟨rfl, .bind_muted fun _ => .map_muted _⟩

theorem echoes_stringRoundTrip :
    Echoes tier tier' (stringRoundTrip B tier) (stringRoundTrip B.muted tier') Eq :=
  .bind_muted fun a => .bind_checks
    (echoes_runProbes (List.rel_append (echoed_stringProbes B a) (.cons ⟨rfl, .pure rfl⟩ .nil)))
    fun _ => .bind_muted fun _ => .pure (List.append_nil _).symm

theorem echoed_copyProbes :
    List.Forall₂ (Probe.Echoed tier tier') (copyProbes B a b) (copyProbes B.muted a b) :=
  .cons ⟨rfl, .bind_muted fun _ => .map_muted _⟩ (.cons ⟨rfl, echoes_nestedInt32 B a⟩ .nil)

theorem echoed_storedProbes :
    List.Forall₂ (Probe.Echoed tier tier') (storedProbes B a b) (storedProbes B.muted a b) :=
  .cons ⟨rfl, .bind_muted fun _ => echoes_nestedInt32 B a⟩
    (.cons ⟨rfl, .bind_muted fun _ => echoes_nestedInt32 B a⟩
    (.cons ⟨rfl, .map_muted _⟩ (.cons ⟨rfl, .map_muted _⟩ .nil)))

theorem echoes_copyOut : Echoes tier tier' (copyOut B tier) (copyOut B.muted tier') Eq :=
  .bind_muted fun a => .bind_muted fun _ => .bind_muted fun b =>
    .bind_checks (echoes_runProbes (echoed_copyProbes B a b)) fun _ => .bind_muted fun c =>
    .bind_muted fun _ => .bind_checks (echoes_runProbes (echoed_storedProbes B a c)) fun _ =>
    .bind_muted fun _ => .bind_muted fun _ => .bind_muted fun _ => .pure (by rw [List.append_nil])

theorem echoes_voidFunctions :
    Echoes tier tier' (voidFunctions B tier) (voidFunctions B.muted tier') Eq :=
  echoes_runProbes (.cons ⟨rfl, .map_muted _⟩ (.cons ⟨rfl, .map_muted _⟩
    (.cons ⟨rfl, .map_muted _⟩ (.cons ⟨rfl, .map_muted _⟩ .nil))))

theorem echoes_fixedReturns :
    Echoes tier tier' (fixedReturns B tier) (fixedReturns B.muted tier') Eq :=
  echoes_runProbes (.cons ⟨rfl, .map_muted _⟩ (.cons ⟨rfl, .map_muted _⟩ .nil))

theorem echoes_comboSelection :
    Echoes tier tier' (comboSelection B tier) (comboSelection B.muted tier') Eq :=
  echoes_runProbes (echoed_flatMap fun _ =>
    .cons ⟨rfl, .map_muted _⟩ (.cons ⟨rfl, .map_muted _⟩ .nil))

end

/-- The groups are echoed, whatever the two tiers are. -/
theorem echoes_groups (tier tier' : Tier) (B : Boundary σ ω ι) :
    Echoes tier tier' (runGroups (groups B tier)) (runGroups (groups B.muted tier')) Eq :=
  echoes_runGroups (.cons (echoes_defaults B) (.cons (echoes_int32RoundTrip B)
    (.cons (echoes_stringRoundTrip B) (.cons (echoes_copyOut B) (.cons (echoes_voidFunctions B)
    (.cons (echoes_fixedReturns B) (.cons (echoes_comboSelection B) .nil)))))))

/-! ### The run -/

/-- The groups give the same checks at both tiers, and on the muted boundary they leave the events
of these and no others. -/
theorem exists_checks (B : Boundary σ ω ι) (s : σ) : ∃ cs s', (∀ c ∈ cs, c.Judged) ∧ ∀ tier,
    ((runGroups (groups B tier)).run s).value = cs ∧
    ((runGroups (groups B tier)).run s).state = s' ∧
    (cs.map (Check.event tier)).Sublist ((runGroups (groups B tier)).run s).events ∧
    (runGroups (groups B.muted tier)).run s = ⟨cs, s', cs.map (Check.event tier)⟩ := by
  -- either tier is compared with one of the two on the muted boundary
  obtain ⟨hvalue, -, cs, hjudged, -, -, hcs⟩ := echoes_groups .smoke .smoke B s
  refine ⟨cs, ((runGroups (groups B.muted .smoke)).run s).state, hjudged, fun tier => ?_⟩
  obtain ⟨hvalue', hstate', -⟩ := echoes_groups tier .smoke B s
  obtain ⟨hvalue'', hstate'', ds, -, hevents, hevents', hds⟩ := echoes_groups tier tier B s
  obtain rfl : ds = cs := by rw [← hds, ← hvalue', hvalue, hcs]
  refine ⟨hds, hstate'.symm, hevents, ?_⟩
  rw [hstate', ← hstate'', ← hevents', ← hds, ← hvalue'']

/-- A run between its first and its last event, with any groups. -/
private theorem run_between (backend : String) (groups : List (Action σ (List Check))) (s : σ) :
    (do
      Action.emit (started backend tier)
      let checks ← runGroups groups
      let report : Report := ⟨backend, tier, checks⟩
      Action.emit (finished report)
      return report : Action σ Report).run s =
    ⟨⟨backend, tier, ((runGroups groups).run s).value⟩, ((runGroups groups).run s).state,
      started backend tier :: (((runGroups groups).run s).events ++
        [finished ⟨backend, tier, ((runGroups groups).run s).value⟩])⟩ :=
  rfl

/-- A run makes its groups and leaves one event before them and one after them. -/
theorem run_eq (B : Boundary σ ω ι) (tier : Tier) (s : σ) :
    (run B tier).run s =
      ⟨⟨B.name, tier, ((runGroups (groups B tier)).run s).value⟩,
        ((runGroups (groups B tier)).run s).state,
        started B.name tier :: (((runGroups (groups B tier)).run s).events ++
          [finished ⟨B.name, tier, ((runGroups (groups B tier)).run s).value⟩])⟩ := by
  rw [run, run_between]

/-- What the checks of every run are about, in order: those of a run on the native boundary. -/
def subjects : List (String × String × Value) :=
  ((run nativeBoundary.toBoundary .asserted).run Store.empty).value.checks.map Check.subject

example : subjects.length = 44 := by decide +kernel

/-- A run of the suite has the same shape on every boundary. Its checks are about the same calls and
expectations whatever the boundary and the tier are, each of them has passed if the actual value is
the expected one and not otherwise, and at the other tier the same checks are recorded.

The events of the boundary left out, on which nothing else in the run depends, those above the level
of debugging mirror the report: one at the start, then one warning for each check that has not
passed, in order, and at last one with the counts of the report. -/
theorem run_shape (B : Boundary σ ω ι) (tier : Tier) (s : σ) :
    let o := (run B tier).run s
    let own := (run B.muted tier).run s
    o.value.checks.map Check.subject = subjects ∧
    (∀ c ∈ o.value.checks, c.passed = decide (c.expected = c.actual)) ∧
    (∀ tier', ((run B tier').run s).value.checks = o.value.checks ∧
      ((run B tier').run s).state = o.state) ∧
    (own.value = o.value ∧ own.state = o.state ∧ own.events.Sublist o.events) ∧
    own.events.filter Event.aboveDebug =
      ⟨.info, "Running conformance suite",
        [("backend", .text B.name), ("tier", .text tier.name)]⟩ ::
      (o.value.checks.filterMap Check.failureMessage?).map (Check.warning tier) ++
      [⟨.info, "Conformance suite finished",
        [("backend", .text B.name), ("total", .int o.value.total),
          ("failed", .int o.value.failed)]⟩] ∧
    ∀ c ∈ o.value.checks, c.failureMessage?.isSome = !c.passed := by
  intro o own
  -- the checks are the same at both tiers and on the muted boundary
  obtain ⟨cs, s', hjudged, h⟩ := exists_checks B s
  obtain ⟨hvalue, hstate, hevents, hmuted⟩ := h tier
  have ho : o = ⟨⟨B.name, tier, cs⟩, s', started B.name tier ::
      (((runGroups (groups B tier)).run s).events ++ [finished ⟨B.name, tier, cs⟩])⟩ := by
    rw [← hvalue, ← hstate]
    exact run_eq B tier s
  have hown : own = ⟨⟨B.name, tier, cs⟩, s', started B.name tier ::
      (cs.map (Check.event tier) ++ [finished ⟨B.name, tier, cs⟩])⟩ := by
    show (run B.muted tier).run s = _
    rw [run_eq, hmuted]
    rfl
  refine ⟨subjects_run B _ s _, ?_, fun tier' => ?_, ?_, ?_, fun c _ => c.failureMessage?_isSome⟩
  · rw [ho]
    exact hjudged
  · obtain ⟨hvalue', hstate', -⟩ := h tier'
    rw [run_eq, ho]
    exact ⟨hvalue', hstate'⟩
  · rw [ho, hown]
    exact ⟨rfl, rfl, (hevents.append_right _).cons_cons _⟩
  · rw [ho, hown, List.filter_cons_of_pos rfl, List.filter_append,
      Check.filter_aboveDebug_map_event]
    rfl

end Suite

end BoundaryContract
