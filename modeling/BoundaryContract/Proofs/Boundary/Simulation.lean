import BoundaryContract.Proofs.Boundary.Serves

/-!
# Simulation of plain values

A boundary may represent its structs in any way. `Simulates B R` says that it behaves as if they
were plain values: `R` relates a state of the boundary to a store, which has the structs in use as
plain values, each behind the reference by which the boundary knows it. New structs enter the store
with their default values, every accessor and every free function gives the result that it gives on
the plain values, and the relation is kept from one call to the next. Nothing is said about the
events of a call.

A boundary that serves plain values (`Serves`) simulates them; what a simulation leaves out is the
copying of whole structs and the events of the free functions.
-/

namespace BoundaryContract

variable {σ ω ι : Type}

/-- Every call on the boundary does to a store of plain values, to which its state is related, what
the surface says. -/
structure Simulates (B : Boundary σ ω ι) (R : Holding σ ω ι) : Prop where
  newOuter {s os is} : R s os is →
    B.newOuter.Ensures s fun a s' => R s' ((a, .default) ::ₘ os) is
  newInner {s os is} : R s os is →
    B.newInner.Ensures s fun b s' => R s' os ((b, .default) ::ₘ is)
  dropOuter {s os is a x} : R s ((a, x) ::ₘ os) is →
    (B.dropOuter a).Ensures s fun _ s' => R s' os is
  dropInner {s os is b y} : R s os ((b, y) ::ₘ is) →
    (B.dropInner b).Ensures s fun _ s' => R s' os is
  outerInt32 {s os is a x} : R s ((a, x) ::ₘ os) is →
    (B.outerInt32 a).Ensures s fun n s' => n = x.int32 ∧ R s' ((a, x) ::ₘ os) is
  setOuterInt32 {s os is a x} (n : Int32) : R s ((a, x) ::ₘ os) is →
    (B.setOuterInt32 a n).Ensures s fun _ s' => R s' ((a, { x with int32 := n }) ::ₘ os) is
  outerBool {s os is a x} : R s ((a, x) ::ₘ os) is →
    (B.outerBool a).Ensures s fun b s' => b = x.bool ∧ R s' ((a, x) ::ₘ os) is
  outerString {s os is a x} : R s ((a, x) ::ₘ os) is →
    (B.outerString a).Ensures s fun t s' => t = x.string ∧ R s' ((a, x) ::ₘ os) is
  setOuterString {s os is a x} (t : String) : R s ((a, x) ::ₘ os) is →
    (B.setOuterString a t).Ensures s fun _ s' => R s' ((a, { x with string := t }) ::ₘ os) is
  outerInner {s os is a x} : R s ((a, x) ::ₘ os) is →
    (B.outerInner a).Ensures s fun b s' => R s' ((a, x) ::ₘ os) ((b, x.inner) ::ₘ is)
  setOuterInner {s os is a x b y} : R s ((a, x) ::ₘ os) ((b, y) ::ₘ is) →
    (B.setOuterInner a b).Ensures s fun _ s' =>
      R s' ((a, { x with inner := y }) ::ₘ os) ((b, y) ::ₘ is)
  innerInt32 {s os is b y} : R s os ((b, y) ::ₘ is) →
    (B.innerInt32 b).Ensures s fun n s' => n = y.int32 ∧ R s' os ((b, y) ::ₘ is)
  setInnerInt32 {s os is b y} (n : Int32) : R s os ((b, y) ::ₘ is) →
    (B.setInnerInt32 b n).Ensures s fun _ s' => R s' os ((b, ⟨n⟩) ::ₘ is)
  simple {s os is} : R s os is → B.simple.Ensures s fun _ s' => R s' os is
  primitiveArgs {s os is} (i : Int32) (b : Bool) : R s os is →
    (B.primitiveArgs i b).Ensures s fun _ s' => R s' os is
  stringArg {s os is} (t : String) : R s os is →
    (B.stringArg t).Ensures s fun _ s' => R s' os is
  primitiveAndStringArg {s os is} (i : Int32) (b : Bool) (t : String) : R s os is →
    (B.primitiveAndStringArg i b t).Ensures s fun _ s' => R s' os is
  returnPrimitive {s os is} : R s os is →
    B.returnPrimitive.Ensures s fun n s' => n = Reference.fixedInt32 ∧ R s' os is
  returnString {s os is} : R s os is →
    B.returnString.Ensures s fun t s' => t = Reference.fixedString ∧ R s' os is
  combo {s os is} (str1 str2 : String) (b : Bool) : R s os is →
    (B.combo str1 str2 b).Ensures s fun t s' => t = Reference.select str1 str2 b ∧ R s' os is

/-- A boundary that serves plain values simulates them. -/
theorem Serves.simulates {B : CloningBoundary σ ω ι} {Holds Settled : Holding σ ω ι}
    (S : Serves B Holds Settled) : Simulates B.toBoundary Holds where
  newOuter h := (S.newOuter h).ensures.mono fun _ _ => S.holds
  newInner h := (S.newInner h).ensures.mono fun _ _ => S.holds
  dropOuter h := (S.dropOuter h).ensures.mono fun _ _ => S.holds
  dropInner h := (S.dropInner h).ensures.mono fun _ _ => S.holds
  outerInt32 h := (S.outerInt32 h).ensures.mono fun _ _ => And.imp_right S.holds
  setOuterInt32 n h := (S.setOuterInt32 n h).ensures.mono fun _ _ => S.holds
  outerBool h := (S.outerBool h).ensures.mono fun _ _ => And.imp_right S.holds
  outerString h := (S.outerString h).ensures.mono fun _ _ => And.imp_right S.holds
  setOuterString t h := (S.setOuterString t h).ensures.mono fun _ _ => S.holds
  outerInner h := (S.outerInner h).ensures.mono fun _ _ => S.holds
  setOuterInner h := (S.setOuterInner h).ensures.mono fun _ _ => S.holds
  innerInt32 h := (S.innerInt32 h).ensures.mono fun _ _ => And.imp_right S.holds
  setInnerInt32 n h := (S.setInnerInt32 n h).ensures.mono fun _ _ => S.holds
  simple h := (S.simple h).ensures.mono fun _ _ => S.holds
  primitiveArgs i b h := (S.primitiveArgs i b h).ensures.mono fun _ _ => S.holds
  stringArg t h := (S.stringArg t h).ensures.mono fun _ _ => S.holds
  primitiveAndStringArg i b t h :=
    (S.primitiveAndStringArg i b t h).ensures.mono fun _ _ => S.holds
  returnPrimitive h := (S.returnPrimitive h).ensures.mono fun _ _ => And.imp_right S.holds
  returnString h := (S.returnString h).ensures.mono fun _ _ => And.imp_right S.holds
  combo str1 str2 b h := (S.combo str1 str2 b h).ensures.mono fun _ _ => And.imp_right S.holds

end BoundaryContract
