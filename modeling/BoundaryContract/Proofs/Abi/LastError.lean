import BoundaryContract.Proofs.Abi.Faults
import BoundaryContract.Proofs.Abi.Schedule

/-!
# The last error of a thread

The error slot of a thread is exact and private. After every step of every schedule it holds what
the thread's own most recent call left there, if that call does more than inspect the library, and
nothing that any other thread does can be seen in it (`last_error_exact_and_private`).

For a single call this is `Entry.SetsSlot`, which promises nothing about handles. That a thread sees
the same slots when the other threads are left out is a statement about two runs, in which the same
call may be given different handles: which numbers the handles have depends on what the other
threads allocate. Two calls have the same `Call.shape` if they differ in nothing else, and a call on
live handles leaves in the slot what its shape determines.
-/

namespace BoundaryContract.Abi

variable {s s' : State} {t : ThreadId} {c c' : Call Pointer}

/-! ### What is left in a slot -/

/-- Whether a call only inspects the library. All others clear the slot of their thread first. -/
def Call.onlyInspects {ρ : Type} : Call ρ → Bool
  | lastErrorCode | lastErrorMessage | liveHandles | version => true
  | _ => false

/-- What a call leaves in the slot of its thread, if it does more than inspect the library: its
failure, or nothing. -/
def Call.left? (objects : Table Object) (c : Call Pointer) : Option (Option Failure) :=
  if c.onlyInspects then none else some (c.faultIn? objects)

namespace Entry

/-- What a call of a schedule leaves in the slot of its thread, unless it only inspects. -/
def left? (e : Entry) : Option (Option Failure) := e.call.left? e.before.objects

/-- What a call does to the error slots. -/
structure SetsSlot (e : Entry) : Prop where
  /-- The slot of its thread holds what the call leaves there, or what it held before. -/
  own : e.after.lastError e.thread = e.left?.getD (e.before.lastError e.thread)
  /-- On live handles, what the call leaves depends on its arguments alone. -/
  promised : e.Admissible → e.left? = if e.call.onlyInspects then none else some e.call.failure?
  /-- No call touches the slot of another thread. -/
  others : ∀ u, u ≠ e.thread → e.after.lastError u = e.before.lastError u
  /-- A call that only inspects changes nothing at all. -/
  inspection : e.call.onlyInspects → e.after = e.before
  /-- A call that leaves a failure in the slot returns the neutral value, and the code and the
  message are those of the one event it logs. -/
  failed : ∀ f, e.left? = some (some f) →
    e.outcome.value = e.call.neutral ∧ e.outcome.events = [f.event]
  /-- A call that leaves the slot empty logs no failure. -/
  succeeded : e.left? = some none → ∀ f : Failure, f.event ∉ e.outcome.events

end Entry

/-- The calls of one thread in a run. -/
def ownEntries (t : ThreadId) (entries : List Entry) : List Entry :=
  entries.filter fun e => e.thread = t

/-- What the most recent call of the thread that does more than inspect left in its slot. -/
def lastLeft (t : ThreadId) (entries : List Entry) : Option (Option Failure) :=
  ((ownEntries t entries).filterMap Entry.left?).getLast?

/-- The content of the thread's slot after each of its calls. -/
def slotsSeen (t : ThreadId) (entries : List Entry) : List (Option Failure) :=
  (ownEntries t entries).map fun e => e.after.lastError t

/-- The calls that one thread makes in a schedule. -/
def ownCalls (t : ThreadId) (schedule : Schedule) : List (Call Pointer) :=
  (schedule.filter fun step => step.1 = t).map Prod.snd

/-- The slot of a thread holds this failure or nothing, and the calls that ask for it tell so. -/
structure State.Shows (s : State) (t : ThreadId) (left : Option Failure) : Prop where
  slot : s.lastError t = left
  code : ((Call.lastErrorCode.perform t).run s).value =
    .code ((left.map Failure.code).getD .success)
  message : ((Call.lastErrorMessage.perform t).run s).value = .message (left.map Failure.message)
  /-- The code is the one of success exactly when there is no message. -/
  success_iff : ((Call.lastErrorCode.perform t).run s).value = .code .success ↔
    ((Call.lastErrorMessage.perform t).run s).value = .message none

/-! ### Single calls -/

theorem Call.left?_of_inspects {objects : Table Object} (hc : c.onlyInspects) :
    c.left? objects = none :=
  if_pos hc

theorem Call.left?_of_acts {objects : Table Object} (hc : c.onlyInspects = false) :
    c.left? objects = some (c.faultIn? objects) :=
  if_neg (by simp [hc])

/-- Only calls that act leave something, and what they leave is what went wrong. -/
theorem Call.left?_eq_some_iff {objects : Table Object} {left : Option Failure} :
    c.left? objects = some left ↔ c.onlyInspects = false ∧ c.faultIn? objects = left := by
  rw [left?]
  cases c.onlyInspects <;> simp

/-- A call that does more than inspect is one of the surface or only clears the slot. -/
theorem Call.isSurface_or_clearError (hc : c.onlyInspects = false) :
    c.isSurface ∨ c = .clearError := by
  cases c with
  | clearError => exact .inr rfl
  | lastErrorCode | lastErrorMessage | liveHandles | version => cases hc
  | _ => exact .inl rfl

/-- A call that only inspects changes nothing at all. -/
theorem Call.state_perform_of_inspects (hc : c.onlyInspects) :
    ((c.perform t).run s).state = s := by
  cases c with
  | lastErrorCode | lastErrorMessage | liveHandles | version => rfl
  | _ => cases hc

/-- Every other call sets the slot of its thread to its failure, or clears it. -/
theorem Call.lastError_perform_of_acts (hc : c.onlyInspects = false) :
    ((c.perform t).run s).state.lastError =
      (s.setLastError t (c.faultIn? s.objects)).lastError := by
  obtain hc | rfl := c.isSurface_or_clearError hc
  · cases hf : c.faultIn? s.objects with
    | none => exact (Call.run_perform_of_no_fault hc hf).1
    | some f =>
      rw [Call.run_perform_of_fault hc hf]
      rfl
  · rfl

theorem Call.left?_of_admissible {objects : Table Object} (hadm : c.Admissible objects) :
    c.left? objects = if c.onlyInspects then none else some c.failure? := by
  rw [left?, faultIn?_of_admissible hadm]

namespace Entry

/-- After a call the slot of its thread holds what the call leaves, or what it held before. -/
theorem lastError_make_self (s : State) (t : ThreadId) (c : Call Pointer) :
    (make s t c).after.lastError t = (c.left? s.objects).getD (s.lastError t) := by
  cases hc : c.onlyInspects with
  | true => rw [after, make, Call.state_perform_of_inspects hc, Call.left?_of_inspects hc]; rfl
  | false =>
    rw [after, make, Call.lastError_perform_of_acts hc, Call.left?_of_acts hc]
    exact State.lastError_setLastError_self ..

/-- The slots of other threads are not touched. -/
theorem lastError_make_of_ne {u : ThreadId} (hu : u ≠ t) (s : State) (c : Call Pointer) :
    (make s t c).after.lastError u = s.lastError u := by
  cases hc : c.onlyInspects with
  | true => rw [after, make, Call.state_perform_of_inspects hc]
  | false =>
    rw [after, make, Call.lastError_perform_of_acts hc]
    exact if_neg hu

/-- The entry of a call that was made tells what became of the slots. -/
theorem make_setsSlot (s : State) (t : ThreadId) (c : Call Pointer) : (make s t c).SetsSlot where
  own := lastError_make_self s t c
  promised hadm := Call.left?_of_admissible hadm
  others _ hu := lastError_make_of_ne hu s c
  inspection hc := Call.state_perform_of_inspects hc
  failed f hf := by
    obtain ⟨hc, hf⟩ := Call.left?_eq_some_iff.mp hf
    obtain hc | rfl := c.isSurface_or_clearError hc
    · have hrun : (make s t c).outcome = f.outcome t s c.neutral :=
        Call.run_perform_of_fault hc hf
      rw [hrun]
      exact ⟨rfl, rfl⟩
    · cases hf
  succeeded hf := by
    obtain ⟨hc, hf⟩ := Call.left?_eq_some_iff.mp hf
    obtain hc | rfl := c.isSurface_or_clearError hc
    · exact (Call.run_perform_of_no_fault hc hf).2
    · exact fun f => List.not_mem_nil

end Entry

/-- The slot is shown as it is. The code tells whether it is empty, since no failure has the code of
success. -/
theorem State.Shows.of_slot {left : Option Failure} (hslot : s.lastError t = left)
    (hcode : ∀ f, left = some f → f.code ≠ .success) : s.Shows t left := by
  have hanswer : ((Call.lastErrorCode.perform t).run s).value = .code (s.code t) := rfl
  have hmessage : ((Call.lastErrorMessage.perform t).run s).value =
    .message ((s.lastError t).map Failure.message) := rfl
  rw [State.code_eq, hslot] at hanswer
  rw [hslot] at hmessage
  refine ⟨hslot, hanswer, hmessage, ?_⟩
  rw [hanswer, hmessage]
  cases left with
  | none => exact iff_of_true rfl rfl
  | some f => exact iff_of_false (fun h => hcode f rfl (Answer.code.inj h)) (by simp)

/-! ### Shapes of calls -/

/-- A call without its handles: of each pointer argument there is only whether it is null. -/
def Call.shape (c : Call Pointer) : Call Bool := c.map Option.isSome

/-- Replacing pointers twice is replacing them once by both. -/
theorem Call.map_map {ρ ρ' ρ'' : Type} (f : ρ → ρ') (g : ρ' → ρ'') (c : Call ρ) :
    (c.map f).map g = c.map (g ∘ f) := by
  cases c <;> rfl

theorem Call.onlyInspects_map {ρ ρ' : Type} (f : ρ → ρ') (c : Call ρ) :
    (c.map f).onlyInspects = c.onlyInspects := by
  cases c <;> rfl

/-- Which handles are passed makes no difference to what is wrong with the arguments. -/
theorem Call.failure?_map {f : Pointer → Pointer} (hf : ∀ p, (f p).isSome = p.isSome)
    (c : Call Pointer) : (c.map f).failure? = c.failure? := by
  have hdefect : ∀ name kind access p,
      (⟨name, .handle kind access (f p)⟩ : Parameter).defect? =
        (⟨name, .handle kind access p⟩ : Parameter).defect? := by
    intro name kind access p
    have hp := hf p
    cases p <;> cases hfp : f _ <;> simp_all [Parameter.defect?]
  cases c <;> simp [map, failure?, isFree, parameters, List.findSome?_cons, hdefect]

/-- A call on live handles leaves in the slot what its shape determines. -/
theorem Call.left?_eq_of_shape {objects objects' : Table Object} (h : c.shape = c'.shape)
    (hadm : c.Admissible objects) (hadm' : c'.Admissible objects') :
    c.left? objects = c'.left? objects' := by
  -- with the same handle for all that are not null, the two calls are the same
  let f : Bool → Pointer := fun b => if b then some 0 else none
  have hf : ∀ p : Pointer, (f p.isSome).isSome = p.isSome := fun p => by cases p <;> rfl
  have hc : c.shape.map f = c'.shape.map f := congrArg _ h
  rw [shape, shape, map_map, map_map] at hc
  have hinspects : c.onlyInspects = c'.onlyInspects := by
    rw [← onlyInspects_map (f ∘ Option.isSome) c, hc, onlyInspects_map]
  have hfailure : c.failure? = c'.failure? :=
    (failure?_map hf c).symm.trans ((congrArg failure? hc).trans (failure?_map hf c'))
  rw [left?_of_admissible hadm, left?_of_admissible hadm', hinspects, hfailure]

/-! ### Schedules -/

/-- The first calls of a history are the history of the first calls. -/
theorem take_history (s : State) (schedule : Schedule) (n : Nat) :
    (history s schedule).take n = history s (schedule.take n) := by
  induction schedule generalizing s n with
  | nil => rw [List.take_nil]; exact List.take_nil
  | cons step schedule ih =>
    cases n with
    | zero => rfl
    | succ n => exact congrArg (_ :: ·) (ih _ n)

/-- The entries of a thread in a history that begins with a call of its own. -/
theorem ownEntries_history_self (t : ThreadId) (s : State) (c : Call Pointer)
    (schedule : Schedule) :
    ownEntries t (history s ((t, c) :: schedule)) =
      Entry.make s t c :: ownEntries t (history (Entry.make s t c).after schedule) :=
  List.filter_cons_of_pos (decide_eq_true rfl)

/-- The entries of a thread in a history that begins with a call of another one. -/
theorem ownEntries_history_of_ne {u : ThreadId} (hu : u ≠ t) (s : State) (c : Call Pointer)
    (schedule : Schedule) :
    ownEntries t (history s ((u, c) :: schedule)) =
      ownEntries t (history (Entry.make s u c).after schedule) :=
  List.filter_cons_of_neg (mt of_decide_eq_true hu)

/-- The slot of a thread holds what was left there last, or what it held to begin with. -/
theorem lastError_finalState (s : State) (t : ThreadId) (schedule : Schedule) :
    (finalState s schedule).lastError t =
      (lastLeft t (history s schedule)).getD (s.lastError t) := by
  induction schedule generalizing s with
  | nil => rfl
  | cons step schedule ih =>
    obtain ⟨u, c⟩ := step
    rw [finalState, ih, lastLeft, lastLeft]
    by_cases hu : u = t
    · subst hu
      have hleft : (Entry.make s u c).left? = c.left? s.objects := rfl
      rw [ownEntries_history_self, List.filterMap_cons, hleft, Entry.lastError_make_self]
      -- the first call counts only if no later one of the thread leaves anything
      cases c.left? s.objects with
      | none => rfl
      | some left =>
        rw [List.getLast?_cons]
        rfl
    · rw [ownEntries_history_of_ne hu, Entry.lastError_make_of_ne (Ne.symm hu)]

/-- What is left in a slot is never a failure with the code of success. -/
theorem lastLeft_code {entries : List Entry} {f : Failure}
    (hf : lastLeft t entries = some (some f)) : f.code ≠ .success := by
  obtain ⟨e, -, he⟩ := List.mem_filterMap.mp (List.mem_of_getLast? hf)
  exact Call.faultIn?_code (Call.left?_eq_some_iff.mp he).2

/-- Two runs in which a thread makes calls of the same shapes on live handles show it the same
slots, whatever the other threads do in the one and though there are none in the other. -/
theorem slotsSeen_eq_of_shape {schedule : Schedule} {alone : List (Call Pointer)}
    (hslot : s.lastError t = s'.lastError t)
    (hshape : (ownCalls t schedule).map Call.shape = alone.map Call.shape)
    (hadm : ∀ e ∈ ownEntries t (history s schedule), e.Admissible)
    (hadm' : ∀ e ∈ history s' (alone.map (t, ·)), e.Admissible) :
    slotsSeen t (history s schedule) = slotsSeen t (history s' (alone.map (t, ·))) := by
  induction schedule generalizing s s' alone with
  | nil =>
    obtain rfl := List.map_eq_nil_iff.mp hshape.symm
    rfl
  | cons step schedule ih =>
    obtain ⟨u, c⟩ := step
    by_cases hu : u = t
    · subst hu
      have hown : ownCalls u ((u, c) :: schedule) = c :: ownCalls u schedule := by simp [ownCalls]
      rw [hown] at hshape
      obtain ⟨c', alone, rfl, hc, hrest⟩ := List.map_eq_cons_iff.mp hshape.symm
      rw [ownEntries_history_self, List.forall_mem_cons] at hadm
      rw [List.map_cons, history, List.forall_mem_cons] at hadm'
      -- the first call leaves the same in both slots
      have hleft : c.left? s.objects = c'.left? s'.objects :=
        Call.left?_eq_of_shape hc.symm hadm.1 hadm'.1
      have hslot' : (Entry.make s u c).after.lastError u =
          (Entry.make s' u c').after.lastError u := by
        rw [Entry.lastError_make_self, Entry.lastError_make_self, hslot, hleft]
      rw [slotsSeen, slotsSeen, List.map_cons, ownEntries_history_self, ownEntries_history_self,
        List.map_cons, List.map_cons, hslot']
      exact congrArg _ (ih hslot' hrest.symm hadm.2 hadm'.2)
    · -- a call of another thread leaves the slot as it is
      have hown : ownCalls t ((u, c) :: schedule) = ownCalls t schedule := by simp [ownCalls, hu]
      rw [ownEntries_history_of_ne hu] at hadm
      rw [slotsSeen, ownEntries_history_of_ne hu]
      refine ih ?_ (hown ▸ hshape) hadm hadm'
      rw [Entry.lastError_make_of_ne (Ne.symm hu), hslot]

/-- The last-error slot is exact and private to its thread. In every schedule that begins with empty
slots and for every thread, after each step the slot shows what the thread's own most recent call
left there, calls that only inspect apart, and each call sets no slot but the one of its thread. The
slots that the thread sees are those of a run of its own calls alone, from any state in which its
slot is empty, provided that its handles are live in both runs; the numbers of the handles may
differ between the two. -/
theorem last_error_exact_and_private (schedule : Schedule) (t : ThreadId) :
    (∀ n, (finalState .empty (schedule.take n)).Shows t
      ((lastLeft t ((history .empty schedule).take n)).getD none)) ∧
    (∀ e ∈ history .empty schedule, e.SetsSlot) ∧
    ∀ (s : State) (alone : List (Call Pointer)), s.lastError t = none →
      (ownCalls t schedule).map Call.shape = alone.map Call.shape →
      (∀ e ∈ ownEntries t (history .empty schedule), e.Admissible) →
      (∀ e ∈ history s (alone.map (t, ·)), e.Admissible) →
      slotsSeen t (history .empty schedule) = slotsSeen t (history s (alone.map (t, ·))) := by
  refine ⟨fun n => ?_, fun e he => ?_, fun s alone hslot hshape hadm hadm' => ?_⟩
  · rw [take_history]
    refine .of_slot (lastError_finalState .empty t (schedule.take n)) fun f hf => ?_
    exact lastLeft_code (Option.getD_eq_iff.mp hf |>.resolve_right (by simp))
  · rw [eq_make_of_mem_history he]
    exact Entry.make_setsSlot ..
  · exact slotsSeen_eq_of_shape hslot.symm hshape hadm hadm'

/-- A schedule in which the second thread allocates before the first one and fails between the calls
of the first one. -/
def interleavedSchedule : Schedule :=
  [(1, .innerDefault), (0, .outerDefault), (1, .outerString none),
    (0, .setOuterString (some 1) (.null 2)), (1, .innerFree (some 0)), (0, .lastErrorCode),
    (0, .outerInt32 (some 1))]

/-- The calls of the first thread of the interleaved schedule, with the handle that it is given when
it is alone. -/
def undisturbedCalls : List (Call Pointer) :=
  [.outerDefault, .setOuterString (some 0) (.null 2), .lastErrorCode, .outerInt32 (some 0)]

/-- The first thread of the interleaved schedule sees the slots that it sees alone, with its own
failure in two of them. -/
theorem slotsSeen_interleavedSchedule :
    ((ownCalls 0 interleavedSchedule).map Call.shape = undisturbedCalls.map Call.shape ∧
      (∀ e ∈ ownEntries 0 (history .empty interleavedSchedule), e.Admissible) ∧
      ∀ e ∈ history .empty (undisturbedCalls.map (0, ·)), e.Admissible) ∧
    slotsSeen 0 (history .empty interleavedSchedule) =
      slotsSeen 0 (history .empty (undisturbedCalls.map (0, ·))) ∧
    slotsSeen 0 (history .empty (undisturbedCalls.map (0, ·))) =
      [none, some (.null "value"), some (.null "value"), none] := by
  have hshape : (ownCalls 0 interleavedSchedule).map Call.shape =
    undisturbedCalls.map Call.shape := rfl
  have hadm : ∀ e ∈ ownEntries 0 (history .empty interleavedSchedule), e.Admissible := by decide
  have hadm' : ∀ e ∈ history .empty (undisturbedCalls.map (0, ·)), e.Admissible := by decide
  exact ⟨⟨hshape, hadm, hadm'⟩,
    (last_error_exact_and_private interleavedSchedule 0).2.2 .empty undisturbedCalls rfl hshape
      hadm hadm', rfl⟩

end BoundaryContract.Abi
