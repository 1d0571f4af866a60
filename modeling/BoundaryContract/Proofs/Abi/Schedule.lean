import BoundaryContract.Proofs.Abi.Effect

/-!
# Schedules of exported calls

Any number of threads make exported calls, one at a time and in some order. Such an order is a
`Schedule`, and its `history` has an `Entry` for each call: the thread, the call, the state it began
in and its outcome.

Two states with the same heap differ in nothing but the error slots. A call does the same from both
unless it asks for the last error, which is why a call that changes only a slot can be left out of a
schedule.
-/

namespace BoundaryContract.Abi

/-- Exported calls in the order in which threads make them. -/
abbrev Schedule := List (ThreadId × Call Pointer)

/-- One call of a schedule. -/
structure Entry where
  thread : ThreadId
  call : Call Pointer
  before : State
  outcome : Outcome State Answer

namespace Entry

/-- A call that a thread makes in a state. -/
def make (s : State) (t : ThreadId) (c : Call Pointer) : Entry := ⟨t, c, s, (c.perform t).run s⟩

/-- The state after a call. -/
def after (e : Entry) : State := e.outcome.state

/-- The caller keeps its promise about handles. -/
def Admissible (e : Entry) : Prop := e.call.Admissible e.before.objects

instance : DecidablePred Admissible := fun e => inferInstanceAs (Decidable (e.call.Admissible _))

/-- A call of the surface has failed if it leaves a failure in the slot of its thread, which it
clears when it begins. -/
def failed (e : Entry) : Bool := e.call.isSurface && (e.after.lastError e.thread).isSome

end Entry

/-- The calls of a schedule that begins in a state, each with its outcome. -/
def history (s : State) : Schedule → List Entry
  | [] => []
  | (t, c) :: rest => Entry.make s t c :: history (Entry.make s t c).after rest

/-- The state after a schedule. -/
def finalState (s : State) : Schedule → State
  | [] => s
  | (t, c) :: rest => finalState (Entry.make s t c).after rest

/-- The calls of a schedule that do not fail in it. -/
def withoutFailures (s : State) (schedule : Schedule) : Schedule :=
  ((history s schedule).filter fun e => !e.failed).map fun e => (e.thread, e.call)

/-- An entry of a history is the call that it names, made in the state that it names. -/
theorem eq_make_of_mem_history {s : State} {schedule : Schedule} {e : Entry}
    (he : e ∈ history s schedule) : e = Entry.make e.before e.thread e.call := by
  induction schedule generalizing s with
  | nil => cases he
  | cons step schedule ih =>
    rcases List.mem_cons.mp he with rfl | he
    · rfl
    · exact ih he

/-! ### Heaps -/

/-- The states have the same objects under the same handles, and count them alike. -/
structure State.SameHeap (s s' : State) : Prop where
  objects : s.objects = s'.objects
  next : s.next = s'.next
  live : s.live = s'.live

namespace State.SameHeap

variable {s s' s'' : State}

theorem refl (s : State) : s.SameHeap s := ⟨rfl, rfl, rfl⟩

theorem symm (h : s.SameHeap s') : s'.SameHeap s := ⟨h.objects.symm, h.next.symm, h.live.symm⟩

theorem trans (h : s.SameHeap s') (h' : s'.SameHeap s'') : s.SameHeap s'' :=
  ⟨h.objects.trans h'.objects, h.next.trans h'.next, h.live.trans h'.live⟩

theorem setLastError (h : s.SameHeap s') (t : ThreadId) (f f' : Option Failure) :
    (s.setLastError t f).SameHeap (s'.setLastError t f') :=
  ⟨h.objects, h.next, h.live⟩

theorem insert (h : s.SameHeap s') (x : Object) : (s.insert x).SameHeap (s'.insert x) := by
  refine ⟨?_, ?_, ?_⟩
  · rw [objects_insert, objects_insert, h.objects, h.next]
  · rw [next_insert, next_insert, h.next]
  · rw [live_insert, live_insert, h.live]

theorem update (h : s.SameHeap s') (g : Handle) (f : Object → Object) :
    (s.update g f).SameHeap (s'.update g f) :=
  ⟨congrArg (Table.update g f) h.objects, h.next, h.live⟩

theorem release (h : s.SameHeap s') (g : Handle) : (s.release g).SameHeap (s'.release g) :=
  ⟨congrArg (Table.erase g) h.objects, h.next, congrArg (· - 1) h.live⟩

end State.SameHeap

/-- Two outcomes of a call are the same but for the error slots. -/
structure SameOutcome (o o' : Outcome State Answer) : Prop where
  value : o.value = o'.value
  events : o.events = o'.events
  heap : o.state.SameHeap o'.state

/-- An effect looks the same from heaps that are alike. -/
theorem Effect.outcome_congr {s s' : State} (h : s.SameHeap s') (t : ThreadId) (e : Effect) :
    SameOutcome (e.outcome t s) (e.outcome t s') := by
  cases e with
  | gives answer events => exact ⟨rfl, rfl, h.setLastError t none none⟩
  | hands x =>
    exact ⟨congrArg (fun h => Answer.pointer (some h)) h.next, rfl,
      (h.setLastError t none none).insert x⟩
  | writes p x =>
    refine ⟨rfl, rfl, ?_⟩
    cases p with
    | none => exact h.setLastError t none none
    | some g => exact (h.setLastError t none none).update g fun _ => x
  | frees p =>
    refine ⟨rfl, rfl, ?_⟩
    cases p with
    | none => exact h.setLastError t none none
    | some g => exact (h.setLastError t none none).release g

/-- What a call does depends on the heap and not on the slots. -/
theorem Call.outcome_congr {s s' : State} (h : s.SameHeap s') (t : ThreadId) (c : Call Pointer) :
    SameOutcome (c.outcome t s) (c.outcome t s') := by
  cases hf : c.failure? with
  | none =>
    rw [outcome_of_none hf, outcome_of_none hf, h.objects]
    exact Effect.outcome_congr h t _
  | some f =>
    rw [outcome_of_failure hf, outcome_of_failure hf]
    exact ⟨rfl, rfl, h.setLastError t _ _⟩

/-- A call outside the surface leaves the heap alone and leaves no events. -/
theorem run_perform_other (t : ThreadId) (s : State) {c : Call Pointer}
    (hc : c.isSurface = false) :
    ((c.perform t).run s).state.SameHeap s ∧ ((c.perform t).run s).events = [] := by
  cases c with
  | clearError | lastErrorCode | lastErrorMessage | liveHandles | version =>
    exact ⟨⟨rfl, rfl, rfl⟩, rfl⟩
  | _ => cases hc

end BoundaryContract.Abi
