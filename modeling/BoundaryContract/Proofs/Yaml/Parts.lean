import BoundaryContract.Proofs.Yaml.Seam

/-!
# The parts of a container

The items of a sequence and the entries of a mapping stand one after another, each on a line at the
margin of the container. If it is settled what can come after a part and after all of them
(`Parted`), and the text of each part tells it (`Told`), then the text of the container tells all
its parts: they are compared one after another, and where they differ, it is in the last
(`Parted.unique`, `Parted.unique_block`).
-/

namespace BoundaryContract.Yaml

open Text

/-! ### Lists that are alike -/

/-- The lists are the same but for their last members, which are alike. -/
def AlikeLast {α : Type} (alike : α → α → Prop) (xs ys : List α) : Prop :=
  ∃ init x y, xs = init ++ [x] ∧ ys = init ++ [y] ∧ alike x y

namespace AlikeLast

variable {α : Type} {alike : α → α → Prop} {x y : α} {xs ys : List α}

theorem singleton (h : alike x y) : AlikeLast alike [x] [y] := ⟨[], x, y, rfl, rfl, h⟩

theorem cons (x : α) (h : AlikeLast alike xs ys) : AlikeLast alike (x :: xs) (x :: ys) := by
  obtain ⟨init, y, z, rfl, rfl, hyz⟩ := h
  exact ⟨x :: init, y, z, rfl, rfl, hyz⟩

/-- Lists of two that differ in the last member have the first in common. -/
theorem pair {x' y' : α} (h : AlikeLast alike [x, y] [x', y']) : x = x' ∧ alike y y' := by
  obtain ⟨init, z, z', hxs, hys, hz⟩ := h
  match init with
  | [] => cases hxs
  | [_] =>
    cases hxs
    cases hys
    exact ⟨rfl, hz⟩
  | _ :: _ :: _ => simp at hxs

end AlikeLast

/-- The members have the same name, and what they name is alike. -/
def AlikeMembers {α : Type} (alike : α → α → Prop) (e e' : String × α) : Prop :=
  e.1 = e'.1 ∧ alike e.2 e'.2

section Parts

variable {α : Type} {text : α → List Char} {outer after : Bool → List Char → Prop}
  {alike : α → α → Prop} {good : α → Prop} {before : List Char} {xs xs' : List α}

/-! ### The text of parts -/

/-- The texts of parts, each on a line at a margin. -/
def partsChars (text : α → List Char) (n : Nat) (before : List Char) : List α → List Char
  | [] => []
  | x :: xs => lineStart before n ++ text x ++ partsChars text n (text x) xs

/-- The text of parts of which the first needs no line of its own. -/
def blockChars (text : α → List Char) (n : Nat) (x : α) (xs : List α) : List Char :=
  text x ++ partsChars text n (text x) xs

/-- Where the texts of the last parts differ in line feeds at the end only, so do those of all. -/
theorem alike_partsChars {x x' : α} (h : AlikeButFeeds (text x) (text x')) (n : Nat)
    (before : List Char) (xs : List α) :
    AlikeButFeeds (partsChars text n before (xs ++ [x]))
      (partsChars text n before (xs ++ [x'])) := by
  induction xs generalizing before with
  | nil =>
    simp only [List.nil_append, partsChars, List.append_nil]
    exact h.append_left _
  | cons y ys ih =>
    simp only [List.cons_append, partsChars]
    exact (ih (text y)).append_left _

/-! ### What the text tells -/

/-- What is to be known of the parts of a container: what comes after all of them is no further
part, and what comes after one of them is either that or a further part. -/
structure Parted (text : α → List Char) (n : Nat) (outer after : Bool → List Char → Prop) :
    Prop where
  solid (x : α) : ∃ ch cs, text x = ch :: cs ∧ isSolid ch
  last {broken : Bool} {r : List Char} (hr : outer broken r) : after broken r
  next (broken : Bool) (x : α) (r : List Char) : after broken (newLine broken n ++ (text x ++ r))
  ne_next {broken : Bool} {r : List Char} (hr : outer broken r) (x : α) (r' : List Char) :
    r ≠ newLine broken n ++ (text x ++ r')

/-- The text of the part determines it, where what can come after a part does. -/
def Told (text : α → List Char) (after : Bool → List Char → Prop) (alike : α → α → Prop)
    (good : α → Prop) (x : α) : Prop :=
  ∀ x' r r', good x' → after (isBroken (text x)) r → after (isBroken (text x')) r' →
    text x ++ r = text x' ++ r' → SameUpTo alike x x' r r'

namespace Parted

theorem ne_nil (h : Parted text n outer after) (x : α) : text x ≠ [] := by
  obtain ⟨ch, cs, hcs, -⟩ := h.solid x
  rw [hcs]
  exact List.cons_ne_nil ch cs

/-- What comes after a part of a container. -/
theorem after_part (h : Parted text n outer after) (x : α)
    (hr : outer (isBroken (text x ++ partsChars text n (text x) xs)) r) :
    after (isBroken (text x)) (partsChars text n (text x) xs ++ r) := by
  cases xs with
  | nil =>
    rw [partsChars, List.append_nil] at hr
    exact h.last hr
  | cons y ys =>
    rw [partsChars, lineStart_eq, List.append_assoc, List.append_assoc]
    exact h.next _ y _

/-- Nothing but line feeds comes after a part only if it is the last. -/
theorem eq_nil_of_feeds (h : Parted text n outer after) {k : Nat}
    (hk : partsChars text n before xs ++ r = feeds k) : xs = [] := by
  cases xs with
  | nil => rfl
  | cons x xs =>
    obtain ⟨ch, cs, hcs, hch⟩ := h.solid x
    rw [partsChars, hcs, List.append_assoc, List.append_assoc, List.cons_append] at hk
    exact absurd hk (append_cons_ne_feeds (ne_feed_of_isSolid hch) k)

/-- The text of the parts of a container determines them, if that of each part does. -/
theorem unique (h : Parted text n outer after) (htold : ∀ x ∈ xs, Told text after alike good x)
    (hgood : ∀ x ∈ xs', good x) (hr : outer (isBroken (before ++ partsChars text n before xs)) r)
    (hr' : outer (isBroken (before ++ partsChars text n before xs')) r')
    (heq : partsChars text n before xs ++ r = partsChars text n before xs' ++ r') :
    SameUpTo (AlikeLast alike) xs xs' r r' := by
  induction xs generalizing before xs' with
  | nil =>
    cases xs' with
    | nil => exact .inl ⟨rfl, heq⟩
    | cons x' xs' =>
      rw [partsChars, List.append_nil] at hr
      rw [partsChars, partsChars, lineStart_eq, List.append_assoc, List.append_assoc] at heq
      exact absurd heq (h.ne_next hr x' _)
  | cons x xs ih =>
    cases xs' with
    | nil =>
      rw [partsChars, List.append_nil] at hr'
      rw [partsChars, partsChars, lineStart_eq, List.append_assoc, List.append_assoc] at heq
      exact absurd heq.symm (h.ne_next hr' x _)
    | cons x' xs' =>
      obtain ⟨hx, hxs⟩ := List.forall_mem_cons.mp htold
      obtain ⟨hx', hxs'⟩ := List.forall_mem_cons.mp hgood
      have hends (y : α) (ys : List α) :
          isBroken (before ++ partsChars text n before (y :: ys)) =
            isBroken (text y ++ partsChars text n (text y) ys) := by
        rw [partsChars, List.append_assoc, ← List.append_assoc before,
          isBroken_append (List.append_ne_nil_of_left_ne_nil (h.ne_nil y) _)]
      rw [hends] at hr hr'
      rw [partsChars, partsChars, List.append_assoc, List.append_assoc, List.append_assoc,
        List.append_assoc, List.append_right_inj] at heq
      obtain ⟨rfl, hrest⟩ | ⟨halike, ⟨k, hk⟩, k', hk'⟩ :=
        hx x' _ _ hx' (h.after_part x hr) (h.after_part x' hr') heq
      · -- the first parts are the same, and so is the line after them
        have hsame := ih hxs hxs' hr hr' hrest
        obtain ⟨rfl, hr⟩ | ⟨hlast, hfeeds⟩ := hsame
        · exact .inl ⟨rfl, hr⟩
        · exact .inr ⟨hlast.cons x, hfeeds⟩
      · -- the first parts are alike only, so no further part comes after either
        obtain rfl := h.eq_nil_of_feeds hk
        obtain rfl := h.eq_nil_of_feeds hk'
        exact .inr ⟨.singleton halike, ⟨k, hk⟩, k', hk'⟩

/-- The text of the parts of a container, of which the first stands on the line where it begins. -/
theorem unique_block (h : Parted text n outer after) (opening : List Char) {x x' : α}
    (htold : ∀ y ∈ x :: xs, Told text after alike good y) (hgood : ∀ y ∈ x' :: xs', good y)
    (hr : outer (isBroken (opening ++ blockChars text n x xs)) r)
    (hr' : outer (isBroken (opening ++ blockChars text n x' xs')) r')
    (heq : opening ++ blockChars text n x xs ++ r = opening ++ blockChars text n x' xs' ++ r') :
    SameUpTo (AlikeLast alike) (x :: xs) (x' :: xs') r r' := by
  -- as if the first part stood on a line of its own
  have hblock (y : α) (ys : List α) :
      partsChars text n [] (y :: ys) = margin n ++ blockChars text n y ys := by
    rw [partsChars, List.append_assoc]
    rfl
  have hends (y : α) (ys : List α) : isBroken ([] ++ partsChars text n [] (y :: ys)) =
      isBroken (opening ++ blockChars text n y ys) := by
    have hne : blockChars text n y ys ≠ [] := List.append_ne_nil_of_left_ne_nil (h.ne_nil y) _
    rw [List.nil_append, hblock, isBroken_append hne, isBroken_append hne]
  rw [← hends] at hr hr'
  refine h.unique htold hgood hr hr' ?_
  rw [List.append_assoc, List.append_assoc, List.append_right_inj] at heq
  rw [hblock, hblock, List.append_assoc, List.append_assoc, heq]

end Parted

end Parts

end BoundaryContract.Yaml
