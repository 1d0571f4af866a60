import BoundaryContract.Proofs.Abi.Outcome
import BoundaryContract.Proofs.Abi.Schedule
import Mathlib.Data.List.Forall2

/-!
# Failed calls

An exported call fails exactly when one of its arguments is bad, reports the first bad one, and is
otherwise invisible. For a single call this is `Entry.Exact`. For a whole schedule it means that the
failed calls can be struck out: the calls that remain have the same outcomes, and the heap ends up
the same (`failed_calls_exact_and_invisible`).

Striking out a failed call leaves the next call of its thread to begin with another error slot. That
changes nothing, since every call of the surface clears the slot first; only the calls that ask for
the last error can tell.
-/

namespace BoundaryContract.Abi

variable {s s' : State} {t : ThreadId} {c : Call Pointer}

/-- A call of the surface failed exactly as its arguments require. -/
structure Entry.Exact (e : Entry) : Prop where
  /-- It failed if and only if it frees nothing and one of its arguments is bad. -/
  failed_iff : e.failed ↔ e.call.isFree = false ∧ ∃ p ∈ e.call.parameters, p.defect? ≠ none
  /-- The slot of its thread holds what is wrong with the first bad argument. -/
  failure : e.after.lastError e.thread = e.call.failure?
  noInternalError : e.after.code e.thread ≠ .internalError
  /-- A failed call returns the neutral value. -/
  answer : e.failed → e.outcome.value = e.call.neutral
  /-- A failed call leaves one warning, and its function is not called. -/
  events : e.failed → ∃ event, e.outcome.events = [event] ∧ event.level = .warn ∧
    event.title ≠ "called"
  /-- A failed call leaves every object and the count of live handles as they were. -/
  heap : e.failed → e.after.SameHeap e.before
  /-- No call touches the slot of another thread. -/
  others : ∀ u, u ≠ e.thread → e.after.lastError u = e.before.lastError u

/-- A call has the same outcome in two schedules: the same answer, unless it asks for the last
error, the same events, and the same heap before and after it. A call of the surface also leaves
the same error in the slot of its thread. -/
structure Entry.SameCall (e e' : Entry) : Prop where
  thread : e.thread = e'.thread
  call : e.call = e'.call
  before : e.before.SameHeap e'.before
  after : e.after.SameHeap e'.after
  answer : e.call.inspectsError = false → e.outcome.value = e'.outcome.value
  events : e.outcome.events = e'.outcome.events
  slot : e.call.isSurface → e.after.lastError e.thread = e'.after.lastError e'.thread

/-! ### Single calls -/

/-- Whatever effect a call has, the slot of its thread is clear afterwards. -/
theorem Effect.lastError_outcome (t : ThreadId) (s : State) (e : Effect) :
    (e.outcome t s).state.lastError = (s.setLastError t none).lastError := by
  cases e with
  | gives answer events => rfl
  | hands x => rfl
  | writes p x => cases p <;> rfl
  | frees p => cases p <;> rfl

/-- The slot of the thread tells why a call of the surface failed, and is empty if it did not. -/
theorem Call.lastError_outcome (t : ThreadId) (s : State) (c : Call Pointer) :
    (c.outcome t s).state.lastError = (s.setLastError t c.failure?).lastError := by
  cases hf : c.failure? with
  | none => rw [outcome_of_none hf, Effect.lastError_outcome]
  | some f =>
    rw [outcome_of_failure hf]
    rfl

/-- A call of the surface fails if and only if something is wrong with its arguments. -/
theorem Entry.failed_make (hc : c.isSurface) (hadm : c.Admissible s.objects) :
    (Entry.make s t c).failed = c.failure?.isSome := by
  have hslot : (Entry.make s t c).after.lastError t = c.failure? := by
    rw [after, make, run_perform hc hadm, Call.lastError_outcome]
    exact State.lastError_setLastError_self ..
  rw [failed, show (Entry.make s t c).call.isSurface = true from hc, Bool.true_and]
  exact congrArg Option.isSome hslot

/-- Every call of the surface on admissible arguments fails exactly as they require. -/
theorem Entry.make_exact (hc : c.isSurface) (hadm : c.Admissible s.objects) :
    (Entry.make s t c).Exact := by
  have hrun : (Entry.make s t c).outcome = c.outcome t s := run_perform hc hadm
  have hslot : (Entry.make s t c).after.lastError = (s.setLastError t c.failure?).lastError := by
    rw [after, hrun, Call.lastError_outcome]
  have hself : (Entry.make s t c).after.lastError t = c.failure? := by
    rw [hslot]
    exact State.lastError_setLastError_self ..
  have hfailed : (Entry.make s t c).failed = c.failure?.isSome := Entry.failed_make hc hadm
  -- what a failed call does is no more than its failure
  have hfail : (Entry.make s t c).failed →
      ∃ f : Failure, (Entry.make s t c).outcome = f.outcome t s c.neutral := by
    intro h
    obtain ⟨f, hf⟩ := Option.isSome_iff_exists.mp (hfailed ▸ h)
    exact ⟨f, hrun.trans (Call.outcome_of_failure hf t s)⟩
  refine
    { failed_iff := ?_
      failure := hself
      noInternalError := ?_
      answer := fun h => ?_
      events := fun h => ?_
      heap := fun h => ?_
      others := fun u hu => ?_ }
  · rw [hfailed]
    exact c.failure?_isSome
  · show (Entry.make s t c).after.code t ≠ _
    rw [State.code_eq, hself]
    cases hf : c.failure? with
    | none => exact nofun
    | some f => exact Call.failure?_code hf
  · obtain ⟨f, hf⟩ := hfail h
    rw [hf]
    rfl
  · obtain ⟨f, hf⟩ := hfail h
    rw [hf]
    exact ⟨f.event, rfl, rfl, by simp [Failure.event]⟩
  · obtain ⟨f, hf⟩ := hfail h
    rw [after, hf]
    exact ⟨rfl, rfl, rfl⟩
  · rw [hslot]
    exact if_neg hu

/-- A call on admissible arguments has the same outcome from states with the same heap. -/
theorem Entry.make_sameCall (hadm : c.Admissible s.objects) (h : s.SameHeap s') :
    (Entry.make s t c).SameCall (Entry.make s' t c) := by
  cases hc : c.isSurface with
  | true =>
    -- the slot is cleared first, so what it held before makes no difference
    have hadm' : c.Admissible s'.objects := h.objects ▸ hadm
    have hrun : (Entry.make s t c).outcome = c.outcome t s := run_perform hc hadm
    have hrun' : (Entry.make s' t c).outcome = c.outcome t s' := run_perform hc hadm'
    obtain ⟨hvalue, hevents, hheap⟩ := Call.outcome_congr h t c
    rw [← hrun, ← hrun'] at hvalue hevents hheap
    refine ⟨rfl, rfl, h, hheap, fun _ => hvalue, hevents, fun _ => ?_⟩
    rw [after, after, hrun, hrun', Call.lastError_outcome, Call.lastError_outcome]
    exact (State.lastError_setLastError_self ..).trans (State.lastError_setLastError_self ..).symm
  | false =>
    obtain ⟨hheap, hevents⟩ := run_perform_other t s hc
    obtain ⟨hheap', hevents'⟩ := run_perform_other t s' hc
    refine ⟨rfl, rfl, h, hheap.trans (h.trans hheap'.symm), fun herror => ?_,
      hevents.trans hevents'.symm, fun hc' => absurd hc' (by simp [make, hc])⟩
    cases c with
    | clearError | version => rfl
    | liveHandles => exact congrArg Answer.size h.live
    | lastErrorCode | lastErrorMessage => cases herror
    | _ => cases hc

/-! ### Schedules -/

/-- A schedule loses its first call if that one fails, and the rest is judged from the state after
it. -/
private theorem withoutFailures_cons (s : State) (t : ThreadId) (c : Call Pointer)
    (schedule : Schedule) :
    withoutFailures s ((t, c) :: schedule) =
      if (Entry.make s t c).failed then withoutFailures (Entry.make s t c).after schedule
      else (t, c) :: withoutFailures (Entry.make s t c).after schedule := by
  rw [withoutFailures, history, List.filter_cons]
  cases (Entry.make s t c).failed <;> rfl

/-- Without its failed calls, a schedule runs alike from every state with the same heap. -/
private theorem history_withoutFailures (schedule : Schedule)
    (hadm : ∀ e ∈ history s schedule, e.Admissible) (h : s.SameHeap s') :
    List.Forall₂ Entry.SameCall ((history s schedule).filter fun e => !e.failed)
        (history s' (withoutFailures s schedule)) ∧
      (finalState s schedule).SameHeap (finalState s' (withoutFailures s schedule)) := by
  induction schedule generalizing s s' with
  | nil => exact ⟨.nil, h⟩
  | cons step schedule ih =>
    obtain ⟨t, c⟩ := step
    have hc : c.Admissible s.objects := hadm (Entry.make s t c) (.head _)
    have hrest : ∀ e ∈ history (Entry.make s t c).after schedule, e.Admissible :=
      fun e he => hadm e (.tail _ he)
    have hfilter := withoutFailures_cons s t c schedule
    cases hfailed : (Entry.make s t c).failed with
    | true =>
      -- a failed call is struck out, and the rest goes on from a state with the same heap
      rw [hfailed, if_pos rfl] at hfilter
      have hsurface : c.isSurface := (Bool.and_eq_true_iff.mp hfailed).1
      have hheap := (Entry.make_exact (t := t) hsurface hc).heap hfailed
      rw [history, List.filter_cons_of_neg (by simp [hfailed]), hfilter]
      exact ih hrest (hheap.trans h)
    | false =>
      rw [hfailed, if_neg nofun] at hfilter
      have hsame := Entry.make_sameCall (t := t) hc h
      obtain ⟨hcalls, hfinal⟩ := ih hrest hsame.after
      rw [history, List.filter_cons_of_pos (by simp [hfailed]), hfilter]
      exact ⟨.cons hsame hcalls, hfinal⟩

/-- Exported calls fail exactly when they must, and a failed call is invisible. In every schedule in
which callers pass only null or live handles of the right kind, from whatever state, each call of
the surface fails exactly as its arguments require. If the failed calls are struck out, the others
keep their outcomes and the heap ends up the same. -/
theorem failed_calls_exact_and_invisible (s : State) (schedule : Schedule)
    (hadm : ∀ e ∈ history s schedule, e.Admissible) :
    (∀ e ∈ history s schedule, e.call.isSurface → e.Exact) ∧
      List.Forall₂ Entry.SameCall ((history s schedule).filter fun e => !e.failed)
        (history s (withoutFailures s schedule)) ∧
      (finalState s schedule).SameHeap (finalState s (withoutFailures s schedule)) := by
  refine ⟨fun e he hc => ?_, history_withoutFailures schedule hadm (.refl s)⟩
  rw [eq_make_of_mem_history he]
  exact Entry.make_exact hc (hadm e he)

/-- A schedule of two threads in which a null handle and two bad views are passed between good
calls. -/
def mixedSchedule : Schedule :=
  [(0, .outerDefault), (1, .outerString none), (1, .combo (.null 3) (.null 0) true),
    (0, .setOuterString (some 0) (.null 2)), (1, .outerString (some 0))]

/-- The three bad calls of the mixed schedule can be struck out. -/
theorem failed_calls_of_mixedSchedule :
    (∀ e ∈ history .empty mixedSchedule, e.Admissible) ∧
      (finalState .empty mixedSchedule).SameHeap
        (finalState .empty [(0, .outerDefault), (1, .outerString (some 0))]) := by
  have hadm : ∀ e ∈ history .empty mixedSchedule, e.Admissible := by decide
  exact ⟨hadm, (failed_calls_exact_and_invisible .empty mixedSchedule hadm).2.2⟩

end BoundaryContract.Abi
