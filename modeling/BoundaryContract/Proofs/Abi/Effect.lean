import BoundaryContract.Proofs.Abi.Execution
import BoundaryContract.Proofs.Abi.Parameters

/-!
# What exported calls do

Every call of the surface does one of two things. If its arguments are bad it fails, which leaves
one event, the failure in the slot of its thread, and nothing else. Otherwise it clears the slot and
has its `Effect`: it gives an answer, or hands out one new object, or writes one object, or frees
one. `Call.effect` says which, from the objects alone, and `Call.outcome` is the outcome to expect.
Here these are data; that they are all there is to a call is the theorem `run_perform`.
-/

namespace BoundaryContract.Abi

/-- What a call does that does not fail. -/
inductive Effect
  /-- Gives an answer and leaves events; the objects stay as they are. -/
  | gives (answer : Answer) (events : List Event)
  /-- Hands out a new object. -/
  | hands (x : Object)
  /-- Replaces the object behind a pointer. -/
  | writes (p : Pointer) (x : Object)
  /-- Frees the object behind a pointer. -/
  | frees (p : Pointer)

/-- The outcome of an effect for a call from the given thread. -/
def Effect.outcome (t : ThreadId) (s : State) : Effect → Outcome State Answer
  | gives answer events => ⟨answer, s.setLastError t none, events⟩
  | hands x => ⟨.pointer (some s.next), (s.setLastError t none).insert x, []⟩
  | writes p x => ⟨.none, p.elim (s.setLastError t none)
      fun h => (s.setLastError t none).update h fun _ => x, []⟩
  | frees p => ⟨.none, p.elim (s.setLastError t none) (s.setLastError t none).release, []⟩

/-- The outcome of a failed call from the given thread. -/
def Failure.outcome (t : ThreadId) (s : State) (neutral : Answer) (f : Failure) :
    Outcome State Answer :=
  ⟨neutral, s.setLastError t (some f), [f.event]⟩

/-- The outer struct behind a pointer. -/
def outerAt (objects : Table Object) (p : Pointer) : Outer :=
  match p.bind fun h => objects.get? h with
  | some (.outer x) => x
  | _ => .default

/-- The nested struct behind a pointer. -/
def innerAt (objects : Table Object) (p : Pointer) : Inner :=
  match p.bind fun h => objects.get? h with
  | some (.inner y) => y
  | _ => .default

/-- The text behind a pointer. -/
def stringAt (objects : Table Object) (p : Pointer) : String :=
  match p.bind fun h => objects.get? h with
  | some (.string s) => s
  | _ => ""

namespace Call

/-- The neutral value that a call returns if it fails. -/
def neutral {ρ : Type} : Call ρ → Answer
  | outerDefault | outerClone _ | outerString _ | outerInner _ | innerDefault | innerClone _
  | returnString | combo _ _ _ => .pointer none
  | outerInt32 _ | innerInt32 _ | returnPrimitive => .int32 0
  | outerBool _ => .bool false
  | stringData _ => .data none
  | stringLength _ => .size 0
  | _ => .none

/-- What a call of the surface does to the objects if it does not fail. -/
def effect (objects : Table Object) : Call Pointer → Effect
  | outerDefault => .hands (.outer .default)
  | outerClone this => .hands (.outer (outerAt objects this))
  | outerFree this => .frees this
  | outerInt32 this => .gives (.int32 (outerAt objects this).int32) []
  | setOuterInt32 this n => .writes this (.outer { outerAt objects this with int32 := n })
  | outerBool this => .gives (.bool (outerAt objects this).bool) []
  | outerString this => .hands (.string (outerAt objects this).string)
  | setOuterString this value =>
    .writes this (.outer { outerAt objects this with string := value.text })
  | outerInner this => .hands (.inner (outerAt objects this).inner)
  | setOuterInner this value =>
    .writes this (.outer { outerAt objects this with inner := innerAt objects value })
  | innerDefault => .hands (.inner .default)
  | innerClone this => .hands (.inner (innerAt objects this))
  | innerFree this => .frees this
  | innerInt32 this => .gives (.int32 (innerAt objects this).int32) []
  | setInnerInt32 this n => .writes this (.inner ⟨n⟩)
  | stringData string => .gives (.data (some (stringAt objects string).toUTF8)) []
  | stringLength string => .gives (.size (stringAt objects string).toUTF8.size) []
  | stringFree string => .frees string
  | simple => .gives .none [Reference.called "simple_function" []]
  | primitiveArgs i b =>
    .gives .none
      [Reference.called "function_with_primitive_args" [("i", .int i.toInt), ("b", .bool b)]]
  | stringArg s =>
    .gives .none [Reference.called "function_with_string_arg" [("s", .text s.text)]]
  | primitiveAndStringArg i b s =>
    .gives .none
      [Reference.called "function_with_primitive_and_string_arg"
        [("i", .int i.toInt), ("b", .bool b), ("s", .text s.text)]]
  | returnPrimitive => .gives (.int32 Reference.fixedInt32) []
  | returnString => .hands (.string Reference.fixedString)
  | combo str1 str2 b => .hands (.string (Reference.select str1.text str2.text b))
  | clearError | lastErrorCode | lastErrorMessage | liveHandles | version => .gives .none []

/-- What a call of the surface is expected to do. -/
def outcome (t : ThreadId) (s : State) (c : Call Pointer) : Outcome State Answer :=
  match c.failure? with
  | some f => f.outcome t s c.neutral
  | none => (c.effect s.objects).outcome t s

end Call

/-- A call with bad arguments only fails. -/
theorem Call.outcome_of_failure {c : Call Pointer} {f : Failure} (hf : c.failure? = some f)
    (t : ThreadId) (s : State) : c.outcome t s = f.outcome t s c.neutral := by
  rw [outcome, hf]

/-- A call whose arguments are good has its effect. -/
theorem Call.outcome_of_none {c : Call Pointer} (hf : c.failure? = none) (t : ThreadId)
    (s : State) : c.outcome t s = (c.effect s.objects).outcome t s := by
  rw [outcome, hf]

end BoundaryContract.Abi
