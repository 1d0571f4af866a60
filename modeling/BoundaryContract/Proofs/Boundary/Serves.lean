import BoundaryContract.Boundary
import BoundaryContract.Proofs.Action
import BoundaryContract.Record
import BoundaryContract.Reference
import Mathlib.Data.Multiset.ZeroCons

/-!
# Boundaries that serve plain values

A client of a boundary holds references to structs and expects a plain value behind each of them.
`Serves B Holds Settled` says that the boundary `B` keeps these expectations under a relation of its
own: `Holds s os is` relates a state to the references that are held, outer and nested, each with
the value expected behind it, and every operation answers from the expected value, changes the
expectation of the struct it writes, and leaves all the others. What is held is a multiset, so each
rule names only the structs that its operation touches.

Every operation establishes `Settled`, which may say more than the `Holds` it starts from. A
boundary with a trace of the last call in its state says there what that trace is afterwards.
-/

namespace BoundaryContract

/-- The events of a reference function, which are the same from every state. -/
def Reference.events (a : Action Unit Unit) : List Event := (a.run ()).events

variable {σ ω ι : Type}

/-- References to structs that a client holds, each with the value it expects there, as a state of
the boundary bears them out. -/
abbrev Holding (σ ω ι : Type) : Type :=
  σ → Multiset (ω × Outer) → Multiset (ι × Inner) → Prop

/-- A boundary that serves plain values: from a state that bears out what a client holds, every
operation does to the values what the surface says, and leaves a settled state. -/
structure Serves (B : CloningBoundary σ ω ι) (Holds Settled : Holding σ ω ι) : Prop where
  holds {s os is} : Settled s os is → Holds s os is
  newOuter {s os is} : Holds s os is →
    B.newOuter.Gives s [] fun a s' => Settled s' ((a, .default) ::ₘ os) is
  newInner {s os is} : Holds s os is →
    B.newInner.Gives s [] fun b s' => Settled s' os ((b, .default) ::ₘ is)
  cloneOuter {s os is a x} : Holds s ((a, x) ::ₘ os) is →
    (B.cloneOuter a).Gives s [] fun c s' => Settled s' ((c, x) ::ₘ (a, x) ::ₘ os) is
  cloneInner {s os is b y} : Holds s os ((b, y) ::ₘ is) →
    (B.cloneInner b).Gives s [] fun c s' => Settled s' os ((c, y) ::ₘ (b, y) ::ₘ is)
  dropOuter {s os is a x} : Holds s ((a, x) ::ₘ os) is →
    (B.dropOuter a).Gives s [] fun _ s' => Settled s' os is
  dropInner {s os is b y} : Holds s os ((b, y) ::ₘ is) →
    (B.dropInner b).Gives s [] fun _ s' => Settled s' os is
  outerInt32 {s os is a x} : Holds s ((a, x) ::ₘ os) is →
    (B.outerInt32 a).Gives s [] fun n s' => n = x.int32 ∧ Settled s' ((a, x) ::ₘ os) is
  setOuterInt32 {s os is a x} (n : Int32) : Holds s ((a, x) ::ₘ os) is →
    (B.setOuterInt32 a n).Gives s [] fun _ s' => Settled s' ((a, { x with int32 := n }) ::ₘ os) is
  outerBool {s os is a x} : Holds s ((a, x) ::ₘ os) is →
    (B.outerBool a).Gives s [] fun b s' => b = x.bool ∧ Settled s' ((a, x) ::ₘ os) is
  outerString {s os is a x} : Holds s ((a, x) ::ₘ os) is →
    (B.outerString a).Gives s [] fun t s' => t = x.string ∧ Settled s' ((a, x) ::ₘ os) is
  setOuterString {s os is a x} (t : String) : Holds s ((a, x) ::ₘ os) is →
    (B.setOuterString a t).Gives s [] fun _ s' =>
      Settled s' ((a, { x with string := t }) ::ₘ os) is
  outerInner {s os is a x} : Holds s ((a, x) ::ₘ os) is →
    (B.outerInner a).Gives s [] fun b s' => Settled s' ((a, x) ::ₘ os) ((b, x.inner) ::ₘ is)
  setOuterInner {s os is a x b y} : Holds s ((a, x) ::ₘ os) ((b, y) ::ₘ is) →
    (B.setOuterInner a b).Gives s [] fun _ s' =>
      Settled s' ((a, { x with inner := y }) ::ₘ os) ((b, y) ::ₘ is)
  innerInt32 {s os is b y} : Holds s os ((b, y) ::ₘ is) →
    (B.innerInt32 b).Gives s [] fun n s' => n = y.int32 ∧ Settled s' os ((b, y) ::ₘ is)
  setInnerInt32 {s os is b y} (n : Int32) : Holds s os ((b, y) ::ₘ is) →
    (B.setInnerInt32 b n).Gives s [] fun _ s' => Settled s' os ((b, ⟨n⟩) ::ₘ is)
  simple {s os is} : Holds s os is →
    B.simple.Gives s (Reference.events Reference.simple) fun _ s' => Settled s' os is
  primitiveArgs {s os is} (i : Int32) (b : Bool) : Holds s os is →
    (B.primitiveArgs i b).Gives s (Reference.events (Reference.primitiveArgs i b)) fun _ s' =>
      Settled s' os is
  stringArg {s os is} (t : String) : Holds s os is →
    (B.stringArg t).Gives s (Reference.events (Reference.stringArg t)) fun _ s' =>
      Settled s' os is
  primitiveAndStringArg {s os is} (i : Int32) (b : Bool) (t : String) : Holds s os is →
    (B.primitiveAndStringArg i b t).Gives s
      (Reference.events (Reference.primitiveAndStringArg i b t)) fun _ s' => Settled s' os is
  returnPrimitive {s os is} : Holds s os is →
    B.returnPrimitive.Gives s [] fun n s' => n = Reference.fixedInt32 ∧ Settled s' os is
  returnString {s os is} : Holds s os is →
    B.returnString.Gives s [] fun t s' => t = Reference.fixedString ∧ Settled s' os is
  combo {s os is} (str1 str2 : String) (b : Bool) : Holds s os is →
    (B.combo str1 str2 b).Gives s [] fun t s' =>
      t = Reference.select str1 str2 b ∧ Settled s' os is

end BoundaryContract
