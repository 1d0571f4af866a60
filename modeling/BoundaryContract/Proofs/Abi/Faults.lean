import BoundaryContract.Proofs.Abi.Effect

/-!
# Faults of exported calls

What an exported call leaves in the error slot of its thread, whatever it is given. Callers promise
to pass live handles only, and `Call.failure?` says why a call fails whose caller keeps the promise.
Here nothing is promised: `Call.faultIn?` also knows the handles that are not live.

Every call of the surface has the same shape. Its inside runs behind the guard, and first checks the
parameters in the order of their declaration; `Body.Checks` is one such check and `Body.Reports` the
inside as a whole, which fails with the first fault or gets past all the checks. From this one fact
about each call (`Call.exists_guarded`) follows what the call does to the slots
(`Call.run_perform_of_fault`, `Call.run_perform_of_no_fault`).
-/

namespace BoundaryContract.Abi

variable {α β : Type} {s : State} {t : ThreadId} {c : Call Pointer}

/-! ### Faults -/

/-- What is wrong with an argument among the objects: its handle is not live, or else it is bad in
itself. -/
def Parameter.faultIn? (objects : Table Object) (p : Parameter) : Option Failure :=
  if p.argument.LiveIn objects then p.defect? else some (.notLive p.name)

/-- What is wrong with the first of the arguments with which something is wrong. -/
def firstFault? (objects : Table Object) (ps : List Parameter) : Option Failure :=
  ps.findSome? (Parameter.faultIn? objects)

/-- The parameters that a call insists on. A call that frees takes whatever it is given. -/
def Call.required (c : Call Pointer) : List Parameter := if c.isFree then [] else c.parameters

/-- Why a call fails that is made among the objects, if it does. -/
def Call.faultIn? (objects : Table Object) (c : Call Pointer) : Option Failure :=
  firstFault? objects c.required

@[simp] theorem firstFault?_nil (objects : Table Object) : firstFault? objects [] = none := rfl

/-- The first fault is that of the first parameter, or else one of the rest. -/
theorem firstFault?_cons (objects : Table Object) (p : Parameter) (ps : List Parameter) :
    firstFault? objects (p :: ps) = (p.faultIn? objects).or (firstFault? objects ps) := by
  rw [firstFault?, List.findSome?_cons]
  cases p.faultIn? objects <;> rfl

theorem Parameter.faultIn?_of_liveIn {objects : Table Object} {p : Parameter}
    (hp : p.argument.LiveIn objects) : p.faultIn? objects = p.defect? :=
  if_pos hp

theorem Parameter.faultIn?_of_not_liveIn {objects : Table Object} {p : Parameter}
    (hp : ¬p.argument.LiveIn objects) : p.faultIn? objects = some (.notLive p.name) :=
  if_neg hp

/-- Among live arguments the first fault is the first defect. -/
theorem firstFault?_of_forall_liveIn {objects : Table Object} {ps : List Parameter}
    (hps : ∀ p ∈ ps, p.argument.LiveIn objects) :
    firstFault? objects ps = ps.findSome? Parameter.defect? := by
  induction ps with
  | nil => rfl
  | cons p ps ih =>
    obtain ⟨hp, hps⟩ := List.forall_mem_cons.mp hps
    rw [firstFault?_cons, ih hps, Parameter.faultIn?_of_liveIn hp, List.findSome?_cons]
    cases p.defect? <;> rfl

/-- If the caller keeps its promise, the call fails for the reasons it has in itself. -/
theorem Call.faultIn?_of_admissible {objects : Table Object} (hadm : c.Admissible objects) :
    c.faultIn? objects = c.failure? := by
  rw [faultIn?, required, failure?]
  split
  · rfl
  · exact firstFault?_of_forall_liveIn hadm

/-- A failure never has the code of success. -/
theorem Call.faultIn?_code {objects : Table Object} {f : Failure}
    (hf : c.faultIn? objects = some f) : f.code ≠ .success := by
  obtain ⟨p, -, hp⟩ := List.exists_of_findSome?_eq_some hf
  by_cases hlive : p.argument.LiveIn objects
  · rw [Parameter.faultIn?_of_liveIn hlive] at hp
    obtain hcode | hcode := Parameter.code_of_defect? hp <;> simp [hcode]
  · rw [Parameter.faultIn?_of_not_liveIn hlive] at hp
    cases hp
    simp [Failure.notLive]

/-! ### The inside of a call -/

namespace Body

/-- The inside checks one parameter: it fails with what is wrong with it, or changes nothing. -/
structure Checks (b : Body α) (s : State) (p : Parameter) : Prop where
  fault {f} : p.faultIn? s.objects = some f → b.exec s = ⟨.error f, s, []⟩
  none : p.faultIn? s.objects = none → ∃ a, b.exec s = ⟨.ok a, s, []⟩

/-- The inside first checks the parameters in order. It fails with what is wrong with the first bad
one, before it changes anything, or it succeeds, leaves the slots alone and logs no failure. -/
structure Reports (b : Body α) (s : State) (ps : List Parameter) : Prop where
  fault {f} : firstFault? s.objects ps = some f → b.exec s = ⟨.error f, s, []⟩
  none : firstFault? s.objects ps = none → ∃ a s' es, b.exec s = ⟨.ok a, s', es⟩ ∧
    s'.lastError = s.lastError ∧ ∀ f : Failure, f.event ∉ es

/-! Checks of single parameters. -/

namespace Checks

variable {b : Body α} {p : Parameter}

/-- A part of the inside that fails with what is wrong with a parameter checks it. -/
theorem of_fault {f : Failure} (hp : p.faultIn? s.objects = some f)
    (hb : b.exec s = ⟨.error f, s, []⟩) : b.Checks s p where
  fault hf := by rw [hb, Option.some.inj (hp.symm.trans hf)]
  none hf := nomatch hp.symm.trans hf

/-- A part of the inside that changes nothing checks a parameter with which nothing is wrong. -/
theorem of_none {a : α} (hp : p.faultIn? s.objects = Option.none)
    (hb : b.exec s = ⟨.ok a, s, []⟩) : b.Checks s p where
  fault hf := nomatch hp.symm.trans hf
  none _ := ⟨a, hb⟩

end Checks

section

variable (name : String) (access : Access) (p : Pointer) (s : State)

/-- Taking the object behind a pointer, if it is of the kind that is asked for, is a check. -/
theorem checks_object {kind : PointerKind} {k : Handle × Object → Body α}
    (hgood : ∀ h x, x.kind = kind → ∃ a, (k (h, x)).exec s = ⟨.ok a, s, []⟩)
    (hbad : ∀ h x, x.kind ≠ kind → (k (h, x)).exec s = ⟨.error (.notLive name), s, []⟩) :
    (object name p >>= k).Checks s ⟨name, .handle kind access p⟩ := by
  cases p with
  | none => exact .of_fault rfl (by simp)
  | some h =>
    cases hx : s.objects.get? h with
    | none =>
      have hp : ¬(Argument.handle kind access (some h)).LiveIn s.objects := by
        simp [Argument.LiveIn, hx]
      exact .of_fault (Parameter.faultIn?_of_not_liveIn hp) (by simp [object, hx])
    | some x =>
      -- there is an object, so the handle is live if and only if the object is of the kind
      have hp : (Argument.handle kind access (some h)).LiveIn s.objects ↔ x.kind = kind := by
        simp [Argument.LiveIn, hx]
      by_cases hkind : x.kind = kind
      · obtain ⟨a, ha⟩ := hgood h x hkind
        exact .of_none (a := a) (Parameter.faultIn?_of_liveIn (hp.mpr hkind))
          (by simp [exec_object_some name hx, ha])
      · exact .of_fault (Parameter.faultIn?_of_not_liveIn (mt hp.mp hkind))
          (by simp [exec_object_some name hx, hbad h x hkind])

theorem checks_outer : (outer name p).Checks s ⟨name, .handle .outer access p⟩ := by
  refine checks_object name access p s (fun h x hx => ?_) fun h x hx => ?_ <;> cases x
  · exact ⟨_, rfl⟩
  all_goals first | cases hx | exact absurd rfl hx | rfl

theorem checks_inner : (inner name p).Checks s ⟨name, .handle .inner access p⟩ := by
  refine checks_object name access p s (fun h x hx => ?_) fun h x hx => ?_ <;> cases x
  · cases hx
  · exact ⟨_, rfl⟩
  all_goals first | cases hx | exact absurd rfl hx | rfl

/-- Taking an owned text is a check of its handle. -/
theorem checks_string : (string name p).Checks s ⟨name, .handle .string access p⟩ := by
  refine checks_object name access p s (fun h x hx => ?_) fun h x hx => ?_ <;> cases x
  · cases hx
  · cases hx
  · exact ⟨_, rfl⟩
  all_goals first | cases hx | exact absurd rfl hx | rfl

/-- Taking the text of a view is a check of the view. -/
theorem checks_text (view : Slice) : (text name view).Checks s ⟨name, .slice view⟩ := by
  have hfault : (⟨name, .slice view⟩ : Parameter).faultIn? s.objects = view.defect? name :=
    Parameter.faultIn?_of_liveIn trivial
  have hexec : (text name view).exec s = ⟨view.toText name, s, []⟩ := exec_text ..
  rw [Slice.toText_eq] at hexec
  cases hv : view.defect? name with
  | some f => exact .of_fault (hfault.trans hv) (by rw [hexec, hv])
  | none => exact .of_none (hfault.trans hv) (by rw [hexec, hv])

end

namespace Reports

variable {b : Body α} {k : α → Body β} {p : Parameter} {ps : List Parameter}

/-- An inside without checks. -/
theorem of_exec {a : α} {s' : State} {es : List Event} (hb : b.exec s = ⟨.ok a, s', es⟩)
    (hslot : s'.lastError = s.lastError) (hes : ∀ f : Failure, f.event ∉ es) : b.Reports s [] where
  fault := nofun
  none _ := ⟨a, s', es, hb, hslot, hes⟩

/-- A check comes before the checks of what follows. -/
theorem cons (hb : b.Checks s p) (hk : ∀ a, (k a).Reports s ps) :
    (b >>= k).Reports s (p :: ps) := by
  cases hp : p.faultIn? s.objects with
  | some g =>
    have hfirst : firstFault? s.objects (p :: ps) = some g := by
      rw [firstFault?_cons, hp, Option.some_or]
    refine ⟨fun hf => ?_, fun hf => nomatch hfirst.symm.trans hf⟩
    obtain rfl := Option.some.inj (hfirst.symm.trans hf)
    rw [exec_bind, hb.fault hp]
  | none =>
    -- a check that is passed changes nothing, so the rest is judged in the same state
    obtain ⟨a, ha⟩ := hb.none hp
    have hexec : (b >>= k).exec s = (k a).exec s := by rw [exec_bind, ha]; rfl
    have hfirst : firstFault? s.objects (p :: ps) = firstFault? s.objects ps := by
      rw [firstFault?_cons, hp, Option.none_or]
    exact ⟨fun hf => hexec.trans ((hk a).fault (hfirst.symm.trans hf)),
      fun hf => hexec ▸ (hk a).none (hfirst.symm.trans hf)⟩

end Reports

section

variable (s : State)

theorem reports_pure (a : α) : (pure a : Body α).Reports s [] :=
  .of_exec (exec_pure a s) rfl (by simp)

theorem reports_handOut (x : Object) : (handOut x).Reports s [] :=
  .of_exec (exec_handOut x s) rfl (by simp)

theorem reports_replace (h : Handle) (x : Object) : (replace h x).Reports s [] :=
  .of_exec (exec_replace h x s) rfl (by simp)

/-- Freeing takes null and even a handle that is not live. -/
theorem reports_release (p : Pointer) : (release p).Reports s [] := by
  cases p with
  | none => exact .of_exec (exec_release_none s) rfl (by simp)
  | some h =>
    cases hx : s.objects.get? h with
    | none =>
      have hexec : (release (some h)).exec s = ⟨.ok (), s, []⟩ := by simp [release, hx]
      exact .of_exec hexec rfl (by simp)
    | some x => exact .of_exec (exec_release_some hx) rfl (by simp)

/-- The call of a reference function logs that it was called, which is no failure. -/
theorem reports_called (function : String) (fields : List (String × Detail)) :
    (lift (Action.emit (Reference.called function fields))).Reports s [] :=
  .of_exec (exec_lift _ s) rfl (by simp [Reference.called, Failure.event])

end

end Body

/-! ### Calls -/

/-- Every call of the surface runs its inside behind the guard of its thread, and the inside first
checks what the call requires. -/
theorem Call.exists_guarded (t : ThreadId) (hc : c.isSurface) :
    ∃ (α : Type) (body : Body α) (answer : α → Answer) (neutral : α),
      c.perform t = answer <$> guarded t neutral body ∧ answer neutral = c.neutral ∧
        ∀ s, body.Reports s c.required := by
  open Body in
  -- the requirements of a call are the checks of its inside, one after another
  cases c with
  | outerDefault | innerDefault | returnString =>
    exact ⟨_, _, _, _, rfl, rfl, fun s => reports_handOut s _⟩
  | outerClone this | outerString this | outerInner this =>
    exact ⟨_, _, _, _, rfl, rfl, fun s => .cons (checks_outer ..) fun _ => reports_handOut s _⟩
  | outerFree this | innerFree this | stringFree this =>
    exact ⟨_, _, _, _, rfl, rfl, fun s => reports_release s _⟩
  | outerInt32 this | outerBool this =>
    exact ⟨_, _, _, _, rfl, rfl, fun s => .cons (checks_outer ..) fun _ => reports_pure s _⟩
  | setOuterInt32 this n =>
    exact ⟨_, _, _, _, rfl, rfl, fun s => .cons (checks_outer ..) fun _ => reports_replace s _ _⟩
  | setOuterString this value =>
    exact ⟨_, _, _, _, rfl, rfl, fun s => .cons (checks_outer ..) fun _ =>
      .cons (checks_text ..) fun _ => reports_replace s _ _⟩
  | setOuterInner this value =>
    exact ⟨_, _, _, _, rfl, rfl, fun s => .cons (checks_outer ..) fun _ =>
      .cons (checks_inner ..) fun _ => reports_replace s _ _⟩
  | innerClone this =>
    exact ⟨_, _, _, _, rfl, rfl, fun s => .cons (checks_inner ..) fun _ => reports_handOut s _⟩
  | innerInt32 this =>
    exact ⟨_, _, _, _, rfl, rfl, fun s => .cons (checks_inner ..) fun _ => reports_pure s _⟩
  | setInnerInt32 this n =>
    exact ⟨_, _, _, _, rfl, rfl, fun s => .cons (checks_inner ..) fun _ => reports_replace s _ _⟩
  | stringData string | stringLength string =>
    exact ⟨_, _, _, _, rfl, rfl, fun s => .cons (checks_string ..) fun _ => reports_pure s _⟩
  | simple | primitiveArgs i b =>
    exact ⟨_, _, _, _, rfl, rfl, fun s => reports_called s _ _⟩
  | stringArg view | primitiveAndStringArg i b view =>
    exact ⟨_, _, _, _, rfl, rfl, fun s => .cons (checks_text ..) fun _ => reports_called s _ _⟩
  | returnPrimitive => exact ⟨_, _, _, _, rfl, rfl, fun s => reports_pure s _⟩
  | combo str1 str2 b =>
    exact ⟨_, _, _, _, rfl, rfl, fun s => .cons (checks_text ..) fun _ =>
      .cons (checks_text ..) fun _ => reports_handOut s _⟩
  | clearError | lastErrorCode | lastErrorMessage | liveHandles | version => cases hc

/-- A call of the surface with a fault fails with it: it returns the neutral value, leaves the
failure in the slot and one event of it, and does nothing else. -/
theorem Call.run_perform_of_fault (hc : c.isSurface) {f : Failure}
    (hf : c.faultIn? s.objects = some f) : (c.perform t).run s = f.outcome t s c.neutral := by
  obtain ⟨α, body, answer, neutral, hperform, hneutral, hreports⟩ := c.exists_guarded t hc
  have hexec := (hreports (s.setLastError t none)).fault hf
  rw [hperform, Action.run_map, run_guarded, hexec, Failure.outcome, ← hneutral]
  simp

/-- A call of the surface without a fault succeeds: it clears the slot and logs no failure. -/
theorem Call.run_perform_of_no_fault (hc : c.isSurface) (hf : c.faultIn? s.objects = none) :
    ((c.perform t).run s).state.lastError = (s.setLastError t none).lastError ∧
      ∀ f : Failure, f.event ∉ ((c.perform t).run s).events := by
  obtain ⟨α, body, answer, neutral, hperform, -, hreports⟩ := c.exists_guarded t hc
  obtain ⟨a, s', es, hexec, hslot, hes⟩ := (hreports (s.setLastError t none)).none hf
  rw [hperform, Action.run_map, run_guarded, hexec]
  exact ⟨hslot, hes⟩

end BoundaryContract.Abi
