import BoundaryContract.Proofs.Abi.Execution
import BoundaryContract.Proofs.Table

/-!
# Ownership of handles

The callers of the exported functions own the handles they were given until they give them back.
`State.Owned base s objs` says that the heap agrees with their books: `objs` lists the handles they
own with the objects behind them, and the count of live handles is `base`, what it was when they
began, plus one for each handle they own.

An exported call clears an error slot and then adds, replaces or removes at most one object, so the
three rules below, with `Owned.setLastError`, say what every call does to the books.
-/

namespace BoundaryContract.Abi.State

variable {base : Nat} {s : State} {h : Handle} {x : Object} {objs : Multiset (Pointer × Object)}

/-- The heap agrees with its callers' books, which list the handles they own. -/
structure Owned (base : Nat) (s : State) (objs : Multiset (Pointer × Object)) : Prop where
  /-- Every owned handle has the expected object behind it. -/
  keeps : s.objects.Keeps s.next objs
  /-- The count of live handles has grown by the number of owned ones. -/
  live : s.live = base + objs.card

namespace Owned

/-- Whoever begins owns nothing. -/
theorem zero (s : State) : s.Owned s.live 0 :=
  ⟨.zero _ _, by simp⟩

theorem setLastError (hs : s.Owned base objs) (t : ThreadId) (f : Option Failure) :
    (s.setLastError t f).Owned base objs :=
  ⟨hs.keeps, hs.live⟩

/-- The pointer that is listed first is a handle with the listed object behind it. -/
theorem head {p : Pointer} (hs : s.Owned base ((p, x) ::ₘ objs)) :
    ∃ h, p = some h ∧ s.objects.get? h = some x := by
  obtain ⟨h, -, hp, hx⟩ := hs.keeps.head
  exact ⟨h, hp, hx⟩

/-- A new object is owned by whoever gets its handle. -/
theorem insert (hs : s.Owned base objs) (x : Object) :
    (s.insert x).Owned base ((some s.next, x) ::ₘ objs) := by
  refine ⟨hs.keeps.insert x, ?_⟩
  rw [live_insert, hs.live, Multiset.card_cons, Nat.add_assoc]

/-- Writing through a handle replaces the object behind it and no other. -/
theorem update (hs : s.Owned base ((some h, x) ::ₘ objs)) (y : Object) :
    (s.update h fun _ => y).Owned base ((some h, y) ::ₘ objs) := by
  refine ⟨hs.keeps.update fun _ => y, ?_⟩
  rw [live_update, hs.live, Multiset.card_cons, Multiset.card_cons]

/-- A handle that is given back leaves the books and lowers the count by one. -/
theorem release (hs : s.Owned base ((some h, x) ::ₘ objs)) : (s.release h).Owned base objs := by
  refine ⟨hs.keeps.erase, ?_⟩
  rw [live_release, hs.live, Multiset.card_cons]
  omega

end Owned

end BoundaryContract.Abi.State
