import BoundaryContract.Boundary.Handles
import BoundaryContract.Proofs.Abi.Ownership
import BoundaryContract.Proofs.Boundary.Serves

/-!
# The boundary of handles serves plain values

A client of the boundary of handles holds pointers and owns the handles in them. `State.Bears` says
that the heap agrees with its books, in which every struct that the client holds is one entry, and
`State.Settled` adds that the thread's error slot is empty, as every call leaves it.

The texts that come back over the boundary are owned for a moment only: `takeString_gives` says that
taking a text reads exactly the text behind the handle and strikes the handle off the books.
-/

namespace BoundaryContract

open Abi (Pointer ThreadId Object State Slice)

namespace Abi

namespace State

/-- The books of a client that holds these structs. -/
def booksOf (os : Multiset (Pointer × Outer)) (is : Multiset (Pointer × Inner)) :
    Multiset (Pointer × Object) :=
  os.map (Prod.map id Object.outer) + is.map (Prod.map id Object.inner)

variable {os : Multiset (Pointer × Outer)} {is : Multiset (Pointer × Inner)} {p : Pointer}
  {x : Outer} {y : Inner}

@[simp] theorem booksOf_zero : booksOf 0 0 = 0 := rfl

@[simp] theorem booksOf_outer :
    booksOf ((p, x) ::ₘ os) is = (p, .outer x) ::ₘ booksOf os is := by
  rw [booksOf, Multiset.map_cons, Multiset.cons_add]
  rfl

@[simp] theorem booksOf_inner :
    booksOf os ((p, y) ::ₘ is) = (p, .inner y) ::ₘ booksOf os is := by
  rw [booksOf, Multiset.map_cons, Multiset.add_cons]
  rfl

@[simp] theorem card_booksOf : (booksOf os is).card = os.card + is.card := by
  simp [booksOf]

/-- The heap agrees with the books, and no call of the thread since its slot was cleared failed. -/
structure Clear (t : ThreadId) (base : Nat) (s : State) (objs : Multiset (Pointer × Object)) :
    Prop where
  owned : s.Owned base objs
  slot : s.lastError t = none

/-- The heap bears out what a client holds. -/
def Bears (base : Nat) (s : State) (os : Multiset (Pointer × Outer))
    (is : Multiset (Pointer × Inner)) : Prop :=
  s.Owned base (booksOf os is)

/-- The heap bears out what a client holds, and its thread's error slot is empty. -/
def Settled (t : ThreadId) (base : Nat) (s : State) (os : Multiset (Pointer × Outer))
    (is : Multiset (Pointer × Inner)) : Prop :=
  s.Clear t base (booksOf os is)

end State

variable {t : ThreadId} {base : Nat} {s : State} {h : Handle} {objs : Multiset (Pointer × Object)}

namespace State

/-- Clearing the slot of a thread leaves the books as they are. -/
theorem Owned.clear (hs : s.Owned base objs) (t : ThreadId) :
    (s.setLastError t none).Clear t base objs :=
  ⟨hs.setLastError t none, lastError_setLastError_self ..⟩

namespace Clear

theorem insert (hs : s.Clear t base objs) (x : Object) :
    (s.insert x).Clear t base ((some s.next, x) ::ₘ objs) :=
  ⟨hs.owned.insert x, hs.slot⟩

theorem update {x : Object} (hs : s.Clear t base ((some h, x) ::ₘ objs)) (y : Object) :
    (s.update h fun _ => y).Clear t base ((some h, y) ::ₘ objs) :=
  ⟨hs.owned.update y, hs.slot⟩

theorem release {x : Object} (hs : s.Clear t base ((some h, x) ::ₘ objs)) :
    (s.release h).Clear t base objs :=
  ⟨hs.owned.release, hs.slot⟩

end Clear

section

variable {os : Multiset (Pointer × Outer)} {is : Multiset (Pointer × Inner)} {p : Pointer}
  {x : Outer} {y : Inner}

theorem Bears.clear (hs : s.Bears base os is) (t : ThreadId) :
    (s.setLastError t none).Settled t base os is :=
  Owned.clear hs t

theorem Bears.outer (hs : s.Bears base ((p, x) ::ₘ os) is) :
    s.Owned base ((p, .outer x) ::ₘ booksOf os is) :=
  booksOf_outer ▸ hs

theorem Bears.inner (hs : s.Bears base os ((p, y) ::ₘ is)) :
    s.Owned base ((p, .inner y) ::ₘ booksOf os is) :=
  booksOf_inner ▸ hs

theorem Settled.of_outer (hs : s.Clear t base ((p, .outer x) ::ₘ booksOf os is)) :
    s.Settled t base ((p, x) ::ₘ os) is := by
  rwa [Settled, booksOf_outer]

theorem Settled.of_inner (hs : s.Clear t base ((p, .inner y) ::ₘ booksOf os is)) :
    s.Settled t base os ((p, y) ::ₘ is) := by
  rwa [Settled, booksOf_inner]

end

end State

/-- The text that is read from the bytes of a text. -/
private theorem text_of_bytes (x : String) :
    (if x.toUTF8.size = 0 then ""
      else Text.decodeLossy (x.toUTF8.extract 0 x.toUTF8.size)) = x := by
  split
  · next hsize => exact (String.utf8ByteSize_eq_zero_iff.mp hsize).symm
  · rw [ByteArray.extract_zero_size, Text.decodeLossy_toUTF8]

/-- Taking a text gives the text behind the handle as it is. -/
theorem run_takeString {x : String} (t : ThreadId) (hx : s.objects.get? h = some (.string x)) :
    (takeString t (some h)).run s = ⟨x, (s.setLastError t none).release h, []⟩ := by
  -- each of the three calls clears the slot and leaves the heap to the next one
  have hx' : (s.setLastError t none).objects.get? h = some (.string x) := hx
  simp only [takeString, Action.run_bind, run_stringData t hx, run_stringLength t hx',
    run_stringFree t hx', Action.run_pure, State.setLastError_setLastError, text_of_bytes,
    List.append_nil]

/-- Taking a text reads the text behind the handle and gives the handle back. -/
theorem takeString_gives {p : Pointer} {x : String} (t : ThreadId)
    (hs : s.Owned base ((p, .string x) ::ₘ objs)) :
    (takeString t p).Gives s [] fun text s' => text = x ∧ s'.Clear t base objs := by
  obtain ⟨h, rfl, hx⟩ := hs.head
  exact .of_run (run_takeString t hx) ⟨rfl, (hs.clear t).release⟩

end Abi

open Abi.State in
/-- The boundary of handles serves plain values from the heap, and leaves the slot of its thread
empty after every operation. -/
theorem handleBoundary_serves (t : ThreadId) (base : Nat) :
    Serves (handleBoundary t) (Bears base) (Settled t base) where
  holds h := h.owned
  newOuter h := .of_run (Abi.run_outerDefault t _) (.of_outer ((Owned.clear h t).insert _))
  newInner h := .of_run (Abi.run_innerDefault t _) (.of_inner ((Owned.clear h t).insert _))
  -- each call finds what is behind its handle and then runs as the function of the boundary does
  cloneOuter h := by
    obtain ⟨g, rfl, hx⟩ := h.outer.head
    exact .of_run (Abi.run_outerClone t hx) (.of_outer ((Owned.clear h t).insert _))
  cloneInner h := by
    obtain ⟨g, rfl, hy⟩ := h.inner.head
    exact .of_run (Abi.run_innerClone t hy) (.of_inner ((Owned.clear h t).insert _))
  dropOuter h := by
    obtain ⟨g, rfl, hx⟩ := h.outer.head
    exact .of_run (Abi.run_outerFree t hx) (h.outer.clear t).release
  dropInner h := by
    obtain ⟨g, rfl, hy⟩ := h.inner.head
    exact .of_run (Abi.run_innerFree t hy) (h.inner.clear t).release
  outerInt32 h := by
    obtain ⟨g, rfl, hx⟩ := h.outer.head
    exact .of_run (Abi.run_outerInt32 t hx) ⟨rfl, h.clear t⟩
  setOuterInt32 n h := by
    obtain ⟨g, rfl, hx⟩ := h.outer.head
    exact .of_run (Abi.run_setOuterInt32 t hx n) (.of_outer ((h.outer.clear t).update _))
  outerBool h := by
    obtain ⟨g, rfl, hx⟩ := h.outer.head
    exact .of_run (Abi.run_outerBool t hx) ⟨rfl, h.clear t⟩
  outerString h := by
    obtain ⟨g, rfl, hx⟩ := h.outer.head
    exact .bind_run (Abi.run_outerString t hx)
      (Abi.takeString_gives t ((Owned.clear h t).insert _).owned)
  setOuterString text h := by
    obtain ⟨g, rfl, hx⟩ := h.outer.head
    exact .of_run (Abi.run_setOuterString t hx (Slice.toText_ofString _ text))
      (.of_outer ((h.outer.clear t).update _))
  outerInner h := by
    obtain ⟨g, rfl, hx⟩ := h.outer.head
    exact .of_run (Abi.run_outerInner t hx) (.of_inner ((Owned.clear h t).insert _))
  setOuterInner h := by
    obtain ⟨g, rfl, hx⟩ := h.outer.head
    obtain ⟨g', rfl, hy⟩ := h.inner.head
    exact .of_run (Abi.run_setOuterInner t hx hy) (.of_outer ((h.outer.clear t).update _))
  innerInt32 h := by
    obtain ⟨g, rfl, hy⟩ := h.inner.head
    exact .of_run (Abi.run_innerInt32 t hy) ⟨rfl, h.clear t⟩
  setInnerInt32 n h := by
    obtain ⟨g, rfl, hy⟩ := h.inner.head
    exact .of_run (Abi.run_setInnerInt32 t hy n) (.of_inner ((h.inner.clear t).update _))
  simple h := .of_run (Abi.run_simple t _) (h.clear t)
  primitiveArgs i b h := .of_run (Abi.run_primitiveArgs t _ i b) (h.clear t)
  stringArg text h :=
    .of_run (Abi.run_stringArg t _ (Slice.toText_ofString _ text)) (h.clear t)
  primitiveAndStringArg i b text h :=
    .of_run (Abi.run_primitiveAndStringArg t _ i b (Slice.toText_ofString _ text)) (h.clear t)
  returnPrimitive h := .of_run (Abi.run_returnPrimitive t _) ⟨rfl, h.clear t⟩
  returnString h :=
    .bind_run (Abi.run_returnString t _)
      (Abi.takeString_gives t ((Owned.clear h t).insert _).owned)
  combo str1 str2 b h :=
    .bind_run (Abi.run_combo t _ (Slice.toText_ofString _ str1) (Slice.toText_ofString _ str2) b)
      (Abi.takeString_gives t ((Owned.clear h t).insert _).owned)

end BoundaryContract
