import BoundaryContract.Boundary.Native
import BoundaryContract.Proofs.Boundary.Serves
import BoundaryContract.Proofs.Table

/-!
# The native boundary serves plain values

A client of the native boundary holds keys of its store. `Store.Bears` says that each of the two
tables has the expected values under the held keys, and `nativeBoundary_serves` that every operation
keeps the store bearing out what is held.
-/

namespace BoundaryContract

namespace Store

variable {n : Store} {os : Multiset (Nat × Outer)} {is : Multiset (Nat × Inner)} {a b : Nat}
  {x : Outer} {y : Inner}

/-- The store has the values expected under the keys that are held. -/
structure Bears (n : Store) (os : Multiset (Nat × Outer)) (is : Multiset (Nat × Inner)) : Prop where
  outers : n.outers.Keeps n.next (os.map (Prod.map some id))
  inners : n.inners.Keeps n.next (is.map (Prod.map some id))

namespace Bears

/-- With nothing held, every state will do. -/
theorem zero (n : Store) : n.Bears 0 0 :=
  ⟨.zero _ _, .zero _ _⟩

theorem get_outer (h : n.Bears ((a, x) ::ₘ os) is) : n.outer a = x := by
  have hx := h.outers
  rw [Multiset.map_cons] at hx
  rw [Store.outer, hx.get?, id, Option.getD_some]

theorem get_inner (h : n.Bears os ((b, y) ::ₘ is)) : n.inner b = y := by
  have hy := h.inners
  rw [Multiset.map_cons] at hy
  rw [Store.inner, hy.get?, id, Option.getD_some]

/-- An outer struct that is put into the store is held under its new key. -/
theorem addOuter (h : n.Bears os is) (x : Outer) :
    (Store.addOuter x).Gives n [] fun a n' => n'.Bears ((a, x) ::ₘ os) is := by
  refine .of_run rfl ⟨?_, h.inners.mono (Nat.le_succ _)⟩
  rw [Multiset.map_cons]
  exact h.outers.insert x

/-- A nested struct that is put into the store is held under its new key. -/
theorem addInner (h : n.Bears os is) (y : Inner) :
    (Store.addInner y).Gives n [] fun b n' => n'.Bears os ((b, y) ::ₘ is) := by
  refine .of_run rfl ⟨h.outers.mono (Nat.le_succ _), ?_⟩
  rw [Multiset.map_cons]
  exact h.inners.insert y

/-- Changing an outer struct in the store changes the value that is held, silently. -/
theorem updateOuter (h : n.Bears ((a, x) ::ₘ os) is) (f : Outer → Outer) :
    (Store.updateOuter a f).Gives n [] fun _ n' => n'.Bears ((a, f x) ::ₘ os) is := by
  obtain ⟨houters, hinners⟩ := h
  rw [Multiset.map_cons] at houters
  refine .of_run rfl ⟨?_, hinners⟩
  rw [Multiset.map_cons]
  exact houters.update f

/-- Changing a nested struct in the store changes the value that is held, silently. -/
theorem updateInner (h : n.Bears os ((b, y) ::ₘ is)) (f : Inner → Inner) :
    (Store.updateInner b f).Gives n [] fun _ n' => n'.Bears os ((b, f y) ::ₘ is) := by
  obtain ⟨houters, hinners⟩ := h
  rw [Multiset.map_cons] at hinners
  refine .of_run rfl ⟨houters, ?_⟩
  rw [Multiset.map_cons]
  exact hinners.update f

theorem eraseOuter (h : n.Bears ((a, x) ::ₘ os) is) :
    Bears { n with outers := n.outers.erase a } os is := by
  obtain ⟨houters, hinners⟩ := h
  rw [Multiset.map_cons] at houters
  exact ⟨houters.erase, hinners⟩

theorem eraseInner (h : n.Bears os ((b, y) ::ₘ is)) :
    Bears { n with inners := n.inners.erase b } os is := by
  obtain ⟨houters, hinners⟩ := h
  rw [Multiset.map_cons] at hinners
  exact ⟨houters, hinners.erase⟩

end Bears

end Store

/-- The native boundary serves plain values from its store. -/
theorem nativeBoundary_serves : Serves nativeBoundary Store.Bears Store.Bears where
  holds h := h
  newOuter h := h.addOuter _
  newInner h := h.addInner _
  cloneOuter h := .bind_gets (by rw [h.get_outer]; exact h.addOuter _)
  cloneInner h := .bind_gets (by rw [h.get_inner]; exact h.addInner _)
  dropOuter h := .of_run rfl h.eraseOuter
  dropInner h := .of_run rfl h.eraseInner
  outerInt32 h := .of_run rfl ⟨congrArg Outer.int32 h.get_outer, h⟩
  setOuterInt32 _ h := h.updateOuter _
  outerBool h := .of_run rfl ⟨congrArg Outer.bool h.get_outer, h⟩
  outerString h := .of_run rfl ⟨congrArg Outer.string h.get_outer, h⟩
  setOuterString _ h := h.updateOuter _
  outerInner h := .bind_gets (by rw [h.get_outer]; exact h.addInner _)
  setOuterInner h := .bind_gets (by rw [h.get_inner]; exact h.updateOuter _)
  innerInt32 h := .of_run rfl ⟨congrArg Inner.int32 h.get_inner, h⟩
  setInnerInt32 _ h := h.updateInner _
  simple h := .of_run rfl h
  primitiveArgs _ _ h := .of_run rfl h
  stringArg _ h := .of_run rfl h
  primitiveAndStringArg _ _ _ h := .of_run rfl h
  returnPrimitive h := .of_run rfl ⟨rfl, h⟩
  returnString h := .of_run rfl ⟨rfl, h⟩
  combo _ _ _ h := .of_run rfl ⟨rfl, h⟩

end BoundaryContract
