import BoundaryContract.Proofs.Boundary.Handles
import BoundaryContract.Proofs.Boundary.Native
import BoundaryContract.Proofs.Client.Serving

/-!
# The boundary of handles refines the native one

Every client program sees the same through the boundary of handles as through the native boundary.
The two have nothing in common in their states: on one side a heap of handles that the caller owns,
with texts that are handed out and given back within a getter, on the other a store of plain values.
What relates them is that both track the same values, so neither can be told from a client whose
slots simply hold values, and hence not from the other.

A run is described by its moments, one for each step, with the state and the slots right after the
step. `Moment.Agrees` is what two corresponding moments have to do with each other, and
`handleBoundary_refines_nativeBoundary` says that they always do, from whatever states the two runs
begin.
-/

namespace BoundaryContract

open Abi (ThreadId Pointer Failure)
open Client

/-- The event with the given name wherever it names a backend. -/
def Event.withBackend (name : String) (e : Event) : Event :=
  { e with fields := e.fields.map fun f => if f.1 = "backend" then (f.1, .text name) else f }

namespace Client

/-! ### Moments -/

/-- A step of a run: its answer and its events, and the slots and the state right after it. -/
structure Moment (σ ω ι : Type) where
  step : Step
  answer : Answer
  events : List Event
  memory : Memory ω ι
  state : σ

section

variable {σ ω ι : Type} (B : CloningBoundary σ ω ι)

/-- The moments of a run of steps, in order. -/
def moments (m : Memory ω ι) (s : σ) : List Step → List (Moment σ ω ι)
  | [] => []
  | step :: rest =>
    let o := (step.perform B m).run s
    ⟨step, o.value.1, o.events, o.value.2, o.state⟩ :: moments o.value.2 o.state rest

/-- What the getters show of the slots at a moment. -/
def Moment.seen (d : Moment σ ω ι) : Memory Outer Inner :=
  ((observe B d.memory).run d.state).value

end

/-- A moment of a run over the boundary of handles agrees with one of a run over the native
boundary. The first run is served by the given thread and began with `base` live handles. -/
structure Moment.Agrees (t : ThreadId) (base : Nat) (f : Moment Abi.State Pointer Pointer)
    (d : Moment Store Nat Nat) : Prop where
  step : f.step = d.step
  answer : f.answer = d.answer
  /-- The getters show the same content of every slot. -/
  seen : f.seen (handleBoundary t) = d.seen nativeBoundary
  /-- The getters leave no events, so none of them failed. -/
  quiet : ((observe (handleBoundary t) f.memory).run f.state).events = []
  /-- The events are the same but for the name of the backend. -/
  events : f.events.map (Event.withBackend nativeBoundary.name) = d.events
  /-- No call failed, since a failure leaves its event. -/
  noFailure : ∀ failure : Failure, failure.event ∉ f.events
  /-- The live handles are those in the slots, besides the ones from before the run. -/
  live : f.state.live = base + f.memory.occupied
  /-- Dropping what the slots hold brings the count back to where it was. -/
  dropped : ((dropAll (handleBoundary t) f.memory).run f.state).state.live = base
  /-- The last error is the one of success after a step that reached the boundary. -/
  code : f.step.reached f.answer → f.state.code t = .success

/-! ### Events -/

/-- An event of a free function: it is no failure, and it names no backend. -/
private def IsCalled (e : Event) : Prop :=
  e.title = "called" ∧ "backend" ∉ e.fields.map Prod.fst

/-- A free function logs nothing but calls. -/
private theorem isCalled_of_result? (f : Function) (args : List Value) {v : Value}
    {es : List Event} (h : f.result? args = some (v, es)) : ∀ e ∈ es, IsCalled e := by
  revert h
  fun_cases Function.result? f args <;> rintro ⟨⟩ <;>
    simp [Reference.events, Reference.simple, Reference.primitiveArgs, Reference.stringArg,
      Reference.primitiveAndStringArg, Reference.called, IsCalled]

/-- A function that is called by name logs the same. -/
private theorem isCalled_of_invoked {name : String} {args : List Value} {v : Value}
    {es : List Event} (h : invoked name args = .ok (v, es)) : ∀ e ∈ es, IsCalled e := by
  rw [invoked] at h
  repeat' split at h
  all_goals try cases h
  next hr => exact isCalled_of_result? _ _ hr

/-- The events of a step are those of a free function, behind the one of a call by name if that is
how the function is called. -/
private theorem events_eq (step : Step) :
    ∃ (names : List String) (es : List Event), (∀ e ∈ es, IsCalled e) ∧
      ∀ invoking : String → Event, step.events invoking = names.map invoking ++ es := by
  cases step with
  | simple => exact ⟨[], _, isCalled_of_result? .simple [] rfl, fun _ => rfl⟩
  | primitiveArgs i b =>
    exact ⟨[], _, isCalled_of_result? .primitiveArgs [.int32 i, .bool b] rfl, fun _ => rfl⟩
  | stringArg s =>
    exact ⟨[], _, isCalled_of_result? .stringArg [.string s] rfl, fun _ => rfl⟩
  | primitiveAndStringArg i b s =>
    exact ⟨[], _, isCalled_of_result? .primitiveAndStringArg [.int32 i, .bool b, .string s] rfl,
      fun _ => rfl⟩
  | invoke function args =>
    cases hr : invoked function args with
    | ok r => exact ⟨[function], r.2, isCalled_of_invoked hr, fun _ => by simp [Step.events, hr]⟩
    | error e =>
      exact ⟨[], [], List.forall_mem_nil _, fun _ => by simp [Step.events, hr]⟩
  | _ => exact ⟨[], [], List.forall_mem_nil _, fun _ => rfl⟩

/-- The event of a free function names no backend, so there is nothing to rename. -/
private theorem IsCalled.withBackend_eq {e : Event} (he : IsCalled e) (name : String) :
    e.withBackend name = e := by
  have hfields : ∀ f ∈ e.fields, f.1 ≠ "backend" := fun f hf h =>
    he.2 (List.mem_map.mpr ⟨f, hf, h⟩)
  rw [Event.withBackend, List.map_congr_left fun f hf => if_neg (hfields f hf), List.map_id']

section

variable {σ ω ι σ' ω' ι' : Type}

/-- A step leaves the same events on every boundary but for the name of the backend. -/
private theorem events_withBackend (step : Step) (B : Boundary σ ω ι) (C : Boundary σ' ω' ι') :
    (step.events B.invoking).map (Event.withBackend C.name) = step.events C.invoking := by
  obtain ⟨names, es, hes, hstep⟩ := events_eq step
  have hnames : ∀ name, (B.invoking name).withBackend C.name = C.invoking name := fun name => by
    simp [Event.withBackend, Boundary.invoking]
  rw [hstep, hstep, List.map_append, List.map_map,
    List.map_congr_left fun e he => (hes e he).withBackend_eq C.name, List.map_id']
  exact congrArg (· ++ es) (List.map_congr_left fun name _ => hnames name)

/-- No event of a step is that of a failure. -/
private theorem failure_notMem_events (step : Step) (B : Boundary σ ω ι) (failure : Failure) :
    failure.event ∉ step.events B.invoking := by
  obtain ⟨names, es, hes, hstep⟩ := events_eq step
  rw [hstep, List.mem_append, List.mem_map]
  rintro (⟨name, -, h⟩ | h)
  · simp [Boundary.invoking, Failure.event] at h
  · simpa [Failure.event] using (hes _ h).1

end

/-! ### The refinement -/

/-- Runs that track the same values agree at every moment. -/
private theorem moments_agree (t : ThreadId) (base : Nat) (steps : List Step)
    {mf : Memory Pointer Pointer} {md : Memory Nat Nat} {s : Abi.State} {n : Store}
    {v : Memory Outer Inner} (hf : Tracks (Abi.State.Bears base) s mf v)
    (hd : Tracks Store.Bears n md v) :
    List.Forall₂ (Moment.Agrees t base) (moments (handleBoundary t) mf s steps)
      (moments nativeBoundary md n steps) := by
  have Sf := handleBoundary_serves t base
  have Sd := nativeBoundary_serves
  induction steps generalizing mf md s n v with
  | nil => exact .nil
  | cons step steps ih =>
    -- each side gives what the step gives on the values that both of them track
    obtain ⟨hef, hf'⟩ := Sf.perform hf step
    obtain ⟨hed, hd'⟩ := Sd.perform hd step
    refine .cons ?_ (ih hf'.tracks hd'.tracks)
    refine
      { step := rfl
        answer := hf'.answer.trans hd'.answer.symm
        seen := (Sf.observe hf'.tracks).2.1.trans (Sd.observe hd'.tracks).2.1.symm
        quiet := (Sf.observe hf'.tracks).1
        events := ?_
        noFailure := fun failure => hef ▸ failure_notMem_events step _ failure
        live := ?_
        dropped := ?_
        code := fun hr => ?_ }
    · show List.map _ ((step.perform (handleBoundary t) mf).run s).events = _
      rw [hef, events_withBackend step _ nativeBoundary.toBoundary]
      exact hed.symm
    · obtain ⟨k, hm, -, hk⟩ := hf'.tracks
      rw [← hm, Memory.occupied_refs]
      exact hk.live.trans (by rw [Abi.State.card_booksOf])
    · exact (Sf.dropAll hf'.tracks).2.live
    · obtain ⟨k, -, -, hk⟩ := hf'.settled hr
      rw [Abi.State.code_eq, hk.slot]
      rfl

end Client

/-- The boundary of handles refines the native boundary. From whatever states the two begin, every
client program gives the same answer to each step over both of them, with the same events but for
the name of the backend and the same content of every slot after it. Over the boundary of handles no
call fails, the count of live handles is always what it was at the beginning plus the number of
occupied slots, and the last error after every step that reached the boundary is that of success. -/
theorem handleBoundary_refines_nativeBoundary (t : ThreadId) (s : Abi.State) (n : Store)
    (steps : List Step) :
    List.Forall₂ (Moment.Agrees t s.live) (moments (handleBoundary t) .empty s steps)
        (moments nativeBoundary .empty n steps) ∧
      ((runSteps (handleBoundary t) .empty steps).run s).value.1 =
        ((runSteps nativeBoundary .empty steps).run n).value.1 := by
  have hf : Tracks (Abi.State.Bears s.live) s (.empty : Memory Pointer Pointer) .empty :=
    ⟨.empty, rfl, rfl, Abi.State.Owned.zero s⟩
  have hd : Tracks Store.Bears n (.empty : Memory Nat Nat) .empty :=
    ⟨.empty, rfl, rfl, Store.Bears.zero n⟩
  refine ⟨moments_agree t s.live steps hf hd, ?_⟩
  rw [((handleBoundary_serves t s.live).runSteps steps hf).2,
    (nativeBoundary_serves.runSteps steps hd).2]

end BoundaryContract
