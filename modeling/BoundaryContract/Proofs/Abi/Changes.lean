import BoundaryContract.Proofs.Abi.Outcome
import BoundaryContract.Proofs.Abi.Schedule

/-!
# Changes of the heap

An exported call makes at most one change to the heap: it hands out one new object, or writes one
object through its mutable argument, or frees one. `Entry.Changes` lists the four possibilities,
each with the handle that the call is seen to take or to give, and `Entry.make_changes` says that
there are no others. What is true of the heap in every run is proved from these four.
-/

namespace BoundaryContract.Abi

/-! ### What a call takes and gives -/

/-- The handle of an argument that a call accesses in the given way. -/
def Argument.handle? (access : Access) : Argument → Option (PointerKind × Handle)
  | .handle kind a (some h) => if a = access then some (kind, h) else none
  | _ => none

/-- The handle that a call accesses in the given way, with its kind. -/
def Call.handle? (access : Access) (c : Call Pointer) : Option (PointerKind × Handle) :=
  c.parameters.findSome? fun p => p.argument.handle? access

/-- The kind of the handle that a call hands out. -/
def Call.result? {ρ : Type} : Call ρ → Option PointerKind
  | outerDefault | outerClone _ => some .outer
  | innerDefault | innerClone _ | outerInner _ => some .inner
  | outerString _ | returnString | combo _ _ _ => some .string
  | _ => none

namespace Entry

/-- The handle that a call returned, with the kind it was returned as. -/
def returned? (e : Entry) : Option (PointerKind × Handle) :=
  match e.call.result?, e.outcome.value with
  | some kind, .pointer (some h) => some (kind, h)
  | _, _ => none

/-- The handle that a call wrote through, as its mutable argument. -/
def written? (e : Entry) : Option (PointerKind × Handle) := e.call.handle? .writes

/-- The handle that a call freed. -/
def freed? (e : Entry) : Option (PointerKind × Handle) := e.call.handle? .frees

/-- The call was neither given this handle to write through nor to free it. -/
def Spares (e : Entry) (h : Handle) : Prop :=
  ∀ kind, e.written? ≠ some (kind, h) ∧ e.freed? ≠ some (kind, h)

end Entry

/-! ### Changes of the heap -/

/-- An outer struct has its truth value unset, which no call can set. -/
def Object.Unset : Object → Prop
  | .outer x => x.bool = false
  | .inner _ => True
  | .string _ => True

/-- No outer struct among the objects has its truth value set. -/
def Unset (objects : Table Object) : Prop :=
  ∀ h x, objects.get? h = some x → x.Unset

/-- A call changed the heap in one of these four ways. -/
inductive Entry.Changes (e : Entry) : Prop
  | nothing (heap : e.after.SameHeap e.before) (returned : e.returned? = none)
      (freed : e.freed? = none)
  | handsOut (x : Object) (heap : e.after.SameHeap (e.before.insert x))
      (returned : e.returned? = some (x.kind, e.before.next)) (freed : e.freed? = none)
      (unset : Unset e.before.objects → x.Unset)
  | writes (h : Handle) (x : Object) (heap : e.after.SameHeap (e.before.update h fun _ => x))
      (returned : e.returned? = none) (freed : e.freed? = none)
      (written : e.written? = some (x.kind, h)) (unset : Unset e.before.objects → x.Unset)
  | frees (kind : PointerKind) (h : Handle) (heap : e.after.SameHeap (e.before.release h))
      (returned : e.returned? = none) (freed : e.freed? = some (kind, h))

variable {s s' : State} {t : ThreadId} {c : Call Pointer}

/-- An outer struct that is read from the objects has its truth value unset. -/
theorem outerAt_bool {objects : Table Object} (h : Unset objects) (p : Pointer) :
    (outerAt objects p).bool = false := by
  rw [outerAt]
  split
  · next x hx =>
    obtain ⟨g, -, hg⟩ := Option.bind_eq_some_iff.mp hx
    exact h g (.outer x) hg
  · rfl

/-- What an effect has to do with what its call takes and gives. -/
def Effect.Fits (objects : Table Object) (c : Call Pointer) : Effect → Prop
  | .gives _ _ => c.result? = none ∧ c.handle? .frees = none
  | .hands x => c.result? = some x.kind ∧ c.handle? .frees = none ∧ (Unset objects → x.Unset)
  | .writes p x => c.result? = none ∧ c.handle? .frees = none ∧
      c.handle? .writes = p.map (x.kind, ·) ∧ (Unset objects → x.Unset)
  | .frees p => c.result? = none ∧ ∃ kind, c.handle? .frees = p.map (kind, ·)

/-- The effect of each call is of the kind that the call's result and its access promise. -/
theorem Call.effect_fits (objects : Table Object) (hc : c.isSurface) :
    (c.effect objects).Fits objects c := by
  cases c with
  | outerDefault => exact ⟨rfl, rfl, fun _ => rfl⟩
  | outerClone this => cases this <;> exact ⟨rfl, rfl, fun h => outerAt_bool h _⟩
  | outerFree this => cases this <;> exact ⟨rfl, .outer, rfl⟩
  | outerInt32 this | outerBool this => cases this <;> exact ⟨rfl, rfl⟩
  | setOuterInt32 this n => cases this <;> exact ⟨rfl, rfl, rfl, fun h => outerAt_bool h _⟩
  | outerString this => cases this <;> exact ⟨rfl, rfl, fun _ => trivial⟩
  | setOuterString this value => cases this <;> exact ⟨rfl, rfl, rfl, fun h => outerAt_bool h _⟩
  | outerInner this => cases this <;> exact ⟨rfl, rfl, fun _ => trivial⟩
  | setOuterInner this value =>
    cases this <;> cases value <;> exact ⟨rfl, rfl, rfl, fun h => outerAt_bool h _⟩
  | innerDefault => exact ⟨rfl, rfl, fun _ => trivial⟩
  | innerClone this => cases this <;> exact ⟨rfl, rfl, fun _ => trivial⟩
  | innerFree this => cases this <;> exact ⟨rfl, .inner, rfl⟩
  | innerInt32 this => cases this <;> exact ⟨rfl, rfl⟩
  | setInnerInt32 this n => cases this <;> exact ⟨rfl, rfl, rfl, fun _ => trivial⟩
  | stringData string | stringLength string => cases string <;> exact ⟨rfl, rfl⟩
  | stringFree string => cases string <;> exact ⟨rfl, .string, rfl⟩
  | simple | primitiveArgs i b | stringArg view | primitiveAndStringArg i b view
  | returnPrimitive => exact ⟨rfl, rfl⟩
  | returnString => exact ⟨rfl, rfl, fun _ => trivial⟩
  | combo str1 str2 b => exact ⟨rfl, rfl, fun _ => trivial⟩
  | clearError | lastErrorCode | lastErrorMessage | liveHandles | version => cases hc

/-- A call that frees nothing has no handle to free. -/
theorem Call.handle?_frees (hc : c.isFree = false) : c.handle? .frees = none := by
  cases c with
  | outerFree this | innerFree this | stringFree this => cases hc
  | outerClone this | outerInt32 this | outerBool this | outerString this | outerInner this
  | innerClone this | innerInt32 this | stringData this | stringLength this => cases this <;> rfl
  | setOuterInt32 this n | setInnerInt32 this n => cases this <;> rfl
  | setOuterString this value => cases this <;> rfl
  | setOuterInner this value => cases this <;> cases value <;> rfl
  | _ => rfl

namespace Entry

variable {e : Entry}

/-- A call that hands out no object returns no handle. -/
theorem returned?_of_result? (h : e.call.result? = none) : e.returned? = none := by
  rw [returned?, h]

/-- A neutral value is no handle. -/
theorem returned?_of_neutral (h : e.outcome.value = e.call.neutral) : e.returned? = none := by
  rw [returned?, h]
  cases e.call <;> rfl

/-- Every admissible call changes the heap in one of the four ways. -/
theorem make_changes (hadm : c.Admissible s.objects) : (make s t c).Changes := by
  -- a call that fails or only looks changes nothing; any other one has its effect
  cases hc : c.isSurface with
  | false =>
    have hheap := (run_perform_other t s hc).1
    cases c with
    | clearError | lastErrorCode | lastErrorMessage | liveHandles | version =>
      exact .nothing hheap rfl rfl
    | _ => cases hc
  | true =>
    have hrun : (make s t c).outcome = c.outcome t s := run_perform hc hadm
    cases hf : c.failure? with
    | some f =>
      rw [Call.outcome_of_failure hf] at hrun
      have hfree : c.isFree = false := (c.failure?_isSome.mp (by rw [hf]; rfl)).1
      refine .nothing ?_ (returned?_of_neutral (by rw [hrun]; rfl)) (Call.handle?_frees hfree)
      rw [after, hrun]
      exact ⟨rfl, rfl, rfl⟩
    | none =>
      have hfits := Call.effect_fits s.objects hc
      rw [Call.outcome_of_none hf] at hrun
      cases he : c.effect s.objects with
      | gives answer events =>
        rw [he] at hrun hfits
        refine .nothing ?_ (returned?_of_result? hfits.1) hfits.2
        rw [after, hrun]
        exact ⟨rfl, rfl, rfl⟩
      | hands x =>
        rw [he] at hrun hfits
        obtain ⟨hresult, hfreed, hunset⟩ := hfits
        refine .handsOut x ?_ ?_ hfreed hunset
        · rw [after, hrun]
          exact ⟨rfl, rfl, rfl⟩
        · rw [returned?, hrun, show (make s t c).call.result? = _ from hresult]
          rfl
      -- writing through null and freeing null are calls that change nothing
      | writes p x =>
        rw [he] at hrun hfits
        obtain ⟨hresult, hfreed, hwritten, hunset⟩ := hfits
        cases p with
        | none =>
          refine .nothing ?_ (returned?_of_result? hresult) hfreed
          rw [after, hrun]
          exact ⟨rfl, rfl, rfl⟩
        | some h =>
          refine .writes h x ?_ (returned?_of_result? hresult) hfreed hwritten hunset
          rw [after, hrun]
          exact ⟨rfl, rfl, rfl⟩
      | frees p =>
        rw [he] at hrun hfits
        obtain ⟨hresult, kind, hfreed⟩ := hfits
        cases p with
        | none =>
          refine .nothing ?_ (returned?_of_result? hresult) hfreed
          rw [after, hrun]
          exact ⟨rfl, rfl, rfl⟩
        | some h =>
          refine .frees kind h ?_ (returned?_of_result? hresult) hfreed
          rw [after, hrun]
          exact ⟨rfl, rfl, rfl⟩

end Entry

end BoundaryContract.Abi
