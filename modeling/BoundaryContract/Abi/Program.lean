import BoundaryContract.Abi.Call
import BoundaryContract.Text.Utf8

/-!
# Foreign programs

A foreign program keeps the pointers it is given in named variables, makes exported calls on them,
and may make some of its calls on another thread. Each kind of pointer has variables of its own, and
an unset variable is null. Setting a variable releases nothing.
-/

namespace BoundaryContract.Abi

/-- The kind of a pointer. -/
inductive PointerKind
  | outer
  | inner
  | string
deriving DecidableEq

/-- A variable of a foreign program. -/
structure Variable where
  kind : PointerKind
  name : String
deriving DecidableEq

/-- The pointers in variables. -/
abbrev Variables := List (Variable × Handle)

namespace Variables

/-- The pointer in a variable. -/
def get (vars : Variables) (v : Variable) : Pointer := vars.lookup v

/-- Sets a variable. -/
def set (vars : Variables) (v : Variable) (p : Pointer) : Variables :=
  let others := vars.filter fun entry => entry.1 ≠ v
  match p with
  | none => others
  | some h => (v, h) :: others

end Variables

/-- A step of a foreign program. -/
inductive Statement
  /-- A call; a pointer that it returns goes into the variable `result`, and the handle in the
  variable `released` is given up. -/
  | call (c : Call Variable) (result released : Option Variable)
  /-- Reads the length of an owned text and then its bytes. -/
  | readString (v : Variable)
  /-- Makes steps on a new thread and waits for it. -/
  | thread (body : List Statement)

instance : Inhabited Statement := ⟨.thread []⟩

/-- What a foreign program sees after one of its steps: the answer, its thread's last error, the
count of live handles, and the events of the step. -/
inductive Sight
  | answer (a : Answer) (failure : Option Failure) (live : Nat) (events : List Event)
  | text (data : Option String) (length : Nat) (failure : Option Failure) (live : Nat)
      (events : List Event)
  | thread (steps : List Sight) (failure : Option Failure) (live : Nat) (events : List Event)

/-- The state of a foreign program: its variables, the handles it still owns, and the number of
threads it has started. -/
structure Program where
  vars : Variables
  owned : List (PointerKind × Handle)
  threads : Nat

/-- A program that has done nothing yet. -/
def Program.empty : Program := ⟨[], [], 0⟩

namespace Program

/-- Takes a returned pointer into a variable and owns its handle. -/
def receive (p : Program) (v : Variable) (pointer : Pointer) : Program :=
  { p with
    vars := p.vars.set v pointer
    owned := match pointer with
      | some h => (v.kind, h) :: p.owned
      | none => p.owned }

/-- Gives up the handle in a variable. -/
def giveUp (p : Program) (v : Variable) : Program :=
  { p with
    vars := p.vars.set v none
    owned := match p.vars.get v with
      | some h => p.owned.erase (v.kind, h)
      | none => p.owned }

/-- The program after a call has returned. -/
def afterCall (p : Program) (a : Answer) (result released : Option Variable) : Program :=
  let p := match result, a with
    | some v, .pointer pointer => p.receive v pointer
    | _, _ => p
  match released with
  | some v => p.giveUp v
  | none => p

end Program

/-- The last error of a thread and the count of live handles. -/
def inspect (t : ThreadId) : Action State (Option Failure × Nat) :=
  .gets fun s => (s.lastError t, s.live)

/-- The text of bytes that a foreign program has read. -/
def readBytes (data : Option ByteArray) (length : Nat) : Option String :=
  data.map fun bytes => Text.decodeLossy (bytes.extract 0 length)

mutual

/-- Makes one step on a thread. -/
def Statement.run (t : ThreadId) (p : Program) : Statement → Action State (Sight × Program)
  | .call c result released => do
    let (a, events) ← ((c.map p.vars.get).perform t).capture
    let (failure, live) ← inspect t
    return (.answer a failure live events, p.afterCall a result released)
  | .readString v => do
    let ((length, data), events) ← Action.capture do
      let length ← stringLength t (p.vars.get v)
      let data ← stringData t (p.vars.get v)
      return (length, data)
    let (failure, live) ← inspect t
    return (.text (readBytes data length) length failure live events, p)
  | .thread body => do
    let (steps, p) ← runAll (p.threads + 1) { p with threads := p.threads + 1 } body
    let (failure, live) ← inspect t
    return (.thread steps failure live [], p)

/-- Makes steps in order on a thread. -/
def runAll (t : ThreadId) (p : Program) : List Statement → Action State (List Sight × Program)
  | [] => pure ([], p)
  | statement :: rest => do
    let (sight, p) ← statement.run t p
    let (sights, p) ← runAll t p rest
    return (sight :: sights, p)

end

/-- Releases a handle as what it is. -/
def releaseOwned (t : ThreadId) : PointerKind × Handle → Action State Unit
  | (.outer, h) => outerFree t (some h)
  | (.inner, h) => innerFree t (some h)
  | (.string, h) => stringFree t (some h)

/-- Releases all the handles that a program still owns. -/
def Program.releaseAll (t : ThreadId) (p : Program) : Action State Unit :=
  p.owned.forM (releaseOwned t)

end BoundaryContract.Abi
