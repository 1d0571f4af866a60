import BoundaryContract.Proofs.Abi.Faults

/-!
# Calls of callers that keep their promise

A call of the surface on admissible arguments does what `Call.outcome` expects of it; this is
`run_perform`. If there is something wrong with an argument, every call does the same, which is
`Call.run_perform_of_fault`. Otherwise a call takes what its arguments stand for, one after the
other, with one lemma for each kind of argument (`run_takes_outer` and those beside it), or it frees
(`run_frees`); what is left of it then is its effect.
-/

namespace BoundaryContract.Abi

variable {objects : Table Object}

/-! ### Arguments without a fault -/

section

variable {name : String} {access : Access} {p : Pointer}

/-- A handle without a fault is the handle of a live object of its kind. -/
private theorem exists_live_object {kind : PointerKind}
    (hp : (⟨name, .handle kind access p⟩ : Parameter).faultIn? objects = none) :
    ∃ h x, p = some h ∧ objects.get? h = some x ∧ x.kind = kind := by
  by_cases hlive : (Argument.handle kind access p).LiveIn objects
  · cases p with
    | none => cases (Parameter.faultIn?_of_liveIn hlive).symm.trans hp
    | some h =>
      obtain ⟨x, hx, hkind⟩ := Option.map_eq_some_iff.mp hlive
      exact ⟨h, x, rfl, hx, hkind⟩
  · cases (Parameter.faultIn?_of_not_liveIn hlive).symm.trans hp

/-- A handle of an outer struct without a fault has an outer struct behind it. -/
private theorem exists_live_outer
    (hp : (⟨name, .handle .outer access p⟩ : Parameter).faultIn? objects = none) :
    ∃ h, p = some h ∧ objects.get? h = some (.outer (outerAt objects (some h))) := by
  obtain ⟨h, x, rfl, hx, hkind⟩ := exists_live_object hp
  cases x <;> cases hkind
  exact ⟨h, rfl, by simp [outerAt, hx]⟩

/-- A handle of a nested struct without a fault has a nested struct behind it. -/
private theorem exists_live_inner
    (hp : (⟨name, .handle .inner access p⟩ : Parameter).faultIn? objects = none) :
    ∃ h, p = some h ∧ objects.get? h = some (.inner (innerAt objects (some h))) := by
  obtain ⟨h, x, rfl, hx, hkind⟩ := exists_live_object hp
  cases x <;> cases hkind
  exact ⟨h, rfl, by simp [innerAt, hx]⟩

/-- A handle of an owned text without a fault has a text behind it. -/
private theorem exists_live_string
    (hp : (⟨name, .handle .string access p⟩ : Parameter).faultIn? objects = none) :
    ∃ h, p = some h ∧ objects.get? h = some (.string (stringAt objects (some h))) := by
  obtain ⟨h, x, rfl, hx, hkind⟩ := exists_live_object hp
  cases x <;> cases hkind
  exact ⟨h, rfl, by simp [stringAt, hx]⟩

/-- A view without a fault holds a text. -/
private theorem toText_eq_ok {view : Slice}
    (hp : (⟨name, .slice view⟩ : Parameter).faultIn? objects = none) :
    view.toText name = .ok view.text := by
  have hlive : (Argument.slice view).LiveIn objects := trivial
  have hview : view.defect? name = none := (Parameter.faultIn?_of_liveIn hlive).symm.trans hp
  rw [Slice.toText_eq, hview]

end

/-! ### Calls that take an argument

The inside of such a call begins by taking the argument. When there is nothing wrong with it, the
rest of the inside runs as if it were the whole call, on what the argument stands for.
-/

section

variable {α β : Type} {t : ThreadId} {s : State} {name : String} {access : Access} {p : Pointer}
  {answer : α → Answer} {neutral : α} {o : Outcome State Answer}

/-- Behind the guard, a part of the inside that only reads hands what it has read to the rest. -/
private theorem run_guarded_bind {b : Body β} {k : β → Body α} {a : β}
    (hb : b.exec (s.setLastError t none) = ⟨.ok a, s.setLastError t none, []⟩) :
    (guarded t neutral (b >>= k)).run s = (guarded t neutral (k a)).run s := by
  rw [run_guarded, run_guarded, Body.exec_bind, hb]
  rfl

/-- A call that takes an outer struct gets the handle and the struct. -/
private theorem run_takes_outer {k : Handle × Outer → Body α}
    (hp : (⟨name, .handle .outer access p⟩ : Parameter).faultIn? s.objects = none)
    (hk : ∀ h, p = some h →
      (answer <$> guarded t neutral (k (h, outerAt s.objects p))).run s = o) :
    (answer <$> guarded t neutral (Body.outer name p >>= k)).run s = o := by
  obtain ⟨h, rfl, hx⟩ := exists_live_outer hp
  rw [← hk h rfl, Action.run_map, Action.run_map,
    run_guarded_bind (Body.exec_outer_some name hx)]

/-- A call that takes a nested struct gets the handle and the struct. -/
private theorem run_takes_inner {k : Handle × Inner → Body α}
    (hp : (⟨name, .handle .inner access p⟩ : Parameter).faultIn? s.objects = none)
    (hk : ∀ h, p = some h →
      (answer <$> guarded t neutral (k (h, innerAt s.objects p))).run s = o) :
    (answer <$> guarded t neutral (Body.inner name p >>= k)).run s = o := by
  obtain ⟨h, rfl, hy⟩ := exists_live_inner hp
  rw [← hk h rfl, Action.run_map, Action.run_map,
    run_guarded_bind (Body.exec_inner_some name hy)]

/-- A call that takes an owned text gets the text. -/
private theorem run_takes_string {k : String → Body α}
    (hp : (⟨name, .handle .string access p⟩ : Parameter).faultIn? s.objects = none)
    (hk : (answer <$> guarded t neutral (k (stringAt s.objects p))).run s = o) :
    (answer <$> guarded t neutral (Body.string name p >>= k)).run s = o := by
  obtain ⟨h, rfl, hx⟩ := exists_live_string hp
  rw [← hk, Action.run_map, Action.run_map, run_guarded_bind (Body.exec_string_some name hx)]

/-- A call that takes a view gets its text. -/
private theorem run_takes_text {view : Slice} {k : String → Body α}
    (hp : (⟨name, .slice view⟩ : Parameter).faultIn? s.objects = none)
    (hk : (answer <$> guarded t neutral (k view.text)).run s = o) :
    (answer <$> guarded t neutral (Body.text name view >>= k)).run s = o := by
  have hexec : (Body.text name view).exec (s.setLastError t none) =
      ⟨.ok view.text, s.setLastError t none, []⟩ := by
    rw [Body.exec_text, toText_eq_ok hp]
  rw [← hk, Action.run_map, Action.run_map, run_guarded_bind hexec]

/-- A call that frees takes null, and releases a live handle. -/
private theorem run_frees {kind : PointerKind}
    (hp : (Argument.handle kind access p).LiveIn s.objects) :
    ((fun _ => Answer.none) <$> guarded t () (Body.release p)).run s =
      (Effect.frees p).outcome t s := by
  cases p with
  | none => rfl
  | some h =>
    obtain ⟨x, hx, -⟩ := Option.map_eq_some_iff.mp hp
    have hexec : (Body.release (some h)).exec (s.setLastError t none) =
        ⟨.ok (), (s.setLastError t none).release h, []⟩ := Body.exec_release_some hx
    rw [Action.run_map, run_guarded, hexec]
    rfl

end

/-! ### Calls -/

variable {t : ThreadId} {s : State} {c : Call Pointer}

/-- A call of the surface has its effect if there is nothing wrong with what it requires, and what
it frees is null or live. -/
private theorem run_perform_of_good (hc : c.isSurface) (hadm : c.Admissible s.objects)
    (hgood : ∀ p ∈ c.required, p.faultIn? s.objects = none) :
    (c.perform t).run s = (c.effect s.objects).outcome t s := by
  cases c with
  | outerDefault | innerDefault | simple | primitiveArgs i b | returnPrimitive | returnString => rfl
  | outerFree this | innerFree this | stringFree this => exact run_frees (hadm _ (.head _))
  | outerClone this | outerInt32 this | setOuterInt32 this n | outerBool this | outerString this
  | outerInner this => exact run_takes_outer (hgood _ (.head _)) fun _ hp => hp ▸ rfl
  | setOuterString this value =>
    exact run_takes_outer (hgood _ (.head _)) fun _ hp =>
      run_takes_text (hgood _ (.tail _ (.head _))) (hp ▸ rfl)
  | setOuterInner this value =>
    exact run_takes_outer (hgood _ (.head _)) fun _ hp =>
      run_takes_inner (hgood _ (.tail _ (.head _))) fun _ _ => hp ▸ rfl
  | innerClone this | innerInt32 this | setInnerInt32 this n =>
    exact run_takes_inner (hgood _ (.head _)) fun _ hp => hp ▸ rfl
  | stringData string | stringLength string => exact run_takes_string (hgood _ (.head _)) rfl
  | stringArg view | primitiveAndStringArg i b view =>
    exact run_takes_text (hgood _ (.head _)) rfl
  | combo str1 str2 b =>
    -- the second text is checked even when the first one is selected
    exact run_takes_text (hgood _ (.head _)) (run_takes_text (hgood _ (.tail _ (.head _))) rfl)
  | clearError | lastErrorCode | lastErrorMessage | liveHandles | version => cases hc

/-- A call of the surface on admissible arguments does what is expected of it. -/
theorem run_perform (hc : c.isSurface) (hadm : c.Admissible s.objects) :
    (c.perform t).run s = c.outcome t s := by
  have hfault : c.faultIn? s.objects = c.failure? := Call.faultIn?_of_admissible hadm
  cases hf : c.failure? with
  | some f =>
    rw [Call.outcome_of_failure hf]
    exact Call.run_perform_of_fault hc (hfault.trans hf)
  | none =>
    rw [Call.outcome_of_none hf]
    exact run_perform_of_good hc hadm (List.findSome?_eq_none_iff.mp (hfault.trans hf))

end BoundaryContract.Abi
