import BoundaryContract.Proofs.Text.LineFeeds
import BoundaryContract.Proofs.Yaml.Cursor
import BoundaryContract.Proofs.Yaml.Printer

/-!
# Where the text of a node ends

What comes after the text of a node is settled by the containers around it: the next line of one of
them, which is indented less deep than the lines of the node (`Leaves`), or nothing but line feeds.
The items of a sequence under a key stand at the margin of the key, so after them a line at the same
margin may come, as long as it is no item (`LeavesItems`).

Such a line is told from a line of the node by its margin (`margin_inj`) and a further item from
what is none by its first characters (`lead`).
-/

namespace BoundaryContract.Yaml

open Text

/-! ### New lines -/

/-- Whether a line begins after the text as it is. -/
def isBroken (before : List Char) : Bool :=
  match before.getLast? with
  | some ch => isBreak ch
  | none => true

/-- The start of a line at a margin, after a break if there is none yet. -/
def newLine (broken : Bool) (m : Nat) : List Char := if broken then margin m else '\n' :: margin m

variable {m n limit : Nat} {broken : Bool} {ch d : Char} {s t r cs ds : List Char}

theorem lineStart_eq (before : List Char) (m : Nat) :
    lineStart before m = newLine (isBroken before) m := by
  rw [lineStart, newLine, isBroken]
  cases before.getLast? <;> rfl

theorem isBroken_append (ht : t ≠ []) (s : List Char) : isBroken (s ++ t) = isBroken t := by
  rw [isBroken, List.getLast?_append_of_ne_nil _ ht, isBroken]

theorem isBroken_concat (s : List Char) (ch : Char) : isBroken (s ++ [ch]) = isBreak ch :=
  isBroken_append (List.cons_ne_nil ch []) s

theorem ne_space_of_isSolid (h : isSolid ch) : ch ≠ ' ' := by
  rintro rfl
  exact absurd h (by decide)

theorem ne_feed_of_isSolid (h : isSolid ch) : ch ≠ '\n' := by
  rintro rfl
  exact absurd h (by decide)

/-- A margin does not go on where something else than a space begins. -/
theorem margin_ne (hch : ch ≠ ' ') (hlt : m < n) : margin m ++ ch :: cs ≠ margin n ++ t := by
  intro h
  obtain ⟨k, rfl⟩ : ∃ k, n = m + (k + 1) := ⟨n - m - 1, by omega⟩
  have hsplit : margin (m + (k + 1)) = margin m ++ ' ' :: margin k :=
    List.replicate_append_replicate.symm
  rw [hsplit, List.append_assoc, List.append_right_inj] at h
  obtain ⟨hspace, -⟩ := List.cons.inj h
  exact hch hspace

/-- The width of a margin is read off where something else than a space comes after it. -/
theorem margin_inj (hch : ch ≠ ' ') (hd : d ≠ ' ')
    (h : margin m ++ ch :: cs = margin n ++ d :: ds) :
    m = n ∧ ch :: cs = d :: ds := by
  obtain hlt | rfl | hlt := Nat.lt_trichotomy m n
  · exact absurd h (margin_ne hch hlt)
  · exact ⟨rfl, List.append_cancel_left h⟩
  · exact absurd h.symm (margin_ne hd hlt)

/-- The width of a new line is read off where something solid comes after it. -/
theorem newLine_inj (hch : isSolid ch) (hd : isSolid d)
    (h : newLine broken m ++ ch :: cs = newLine broken n ++ d :: ds) :
    m = n ∧ ch :: cs = d :: ds := by
  refine margin_inj (ne_space_of_isSolid hch) (ne_space_of_isSolid hd) ?_
  cases broken with
  | true => exact h
  | false => exact (List.cons.inj h).2

/-- Something else is no line feeds. -/
theorem append_cons_ne_feeds (hch : ch ≠ '\n') (k : Nat) : s ++ ch :: cs ≠ feeds k := by
  intro h
  exact hch (eq_of_mem_feeds (k := k) (by simp [← h]))

/-! ### After a node -/

/-- After a node come line feeds up to the end of the text, or a line that is not indented as deep
as the limit. -/
inductive Leaves (limit : Nat) (broken : Bool) : List Char → Prop
  | ends (k : Nat) : Leaves limit broken (feeds k)
  | line {m : Nat} {ch : Char} {cs : List Char} (hm : m < limit) (hch : isSolid ch) :
    Leaves limit broken (newLine broken m ++ ch :: cs)

/-- What leaves a margin leaves all deeper ones. -/
theorem Leaves.mono (h : Leaves m broken r) (hle : m ≤ n) : Leaves n broken r := by
  cases h with
  | ends k => exact .ends k
  | line hm hch => exact .line (Nat.lt_of_lt_of_le hm hle) hch

/-- No line at the limit comes after the node. -/
theorem Leaves.ne_line (h : Leaves limit broken r) (hd : isSolid d) :
    r ≠ newLine broken limit ++ d :: ds := by
  rintro rfl
  generalize hr : newLine broken limit ++ d :: ds = r at h
  cases h with
  | ends k => exact append_cons_ne_feeds (ne_feed_of_isSolid hd) k hr
  | line hm hch =>
    obtain ⟨rfl, -⟩ := newLine_inj hd hch hr
    exact Nat.lt_irrefl _ hm

/-- Where a line begins after the node as it is, a further line feed is followed by nothing else. -/
theorem Leaves.exists_feeds (h : Leaves limit true ('\n' :: r)) : ∃ k, '\n' :: r = feeds k := by
  generalize hr : '\n' :: r = r at h
  cases h with
  | ends k => exact ⟨k, rfl⟩
  | @line m ch cs hm hch =>
    cases m with
    | zero =>
      obtain ⟨hfeed, -⟩ := List.cons.inj hr
      exact absurd hfeed.symm (ne_feed_of_isSolid hch)
    | succ m =>
      obtain ⟨hspace, -⟩ := List.cons.inj hr
      exact absurd hspace (by decide)

/-- Where a line has to be ended first, no colon comes after the node. -/
theorem Leaves.ne_colon (h : Leaves limit false r) (cs : List Char) : r ≠ ':' :: cs := by
  intro heq
  cases h with
  | ends k =>
    have hcolon : (':' : Char) ≠ '\n' := by decide
    exact append_cons_ne_feeds (s := []) hcolon k heq.symm
  | line _ _ => cases heq

/-- Two parts are the same, and so is what comes after them; or else they are alike, and nothing but
line feeds comes after either of them. -/
def SameUpTo {α : Type} (alike : α → α → Prop) (x x' : α) (r r' : List Char) : Prop :=
  (x = x' ∧ r = r') ∨ (alike x x' ∧ (∃ k, r = feeds k) ∧ ∃ k, r' = feeds k)

/-- Which of the two parts comes first does not matter if it does not matter for likeness. -/
theorem SameUpTo.symm {α : Type} {alike : α → α → Prop} {x x' : α}
    (h : SameUpTo alike x x' r t) (hsymm : ∀ x x', alike x x' → alike x' x) :
    SameUpTo alike x' x t r := by
  obtain ⟨rfl, rfl⟩ | ⟨halike, hr, ht⟩ := h
  · exact .inl ⟨rfl, rfl⟩
  · exact .inr ⟨hsymm _ _ halike, ht, hr⟩

/-- What is made of two such parts is the same up to what is made of the likeness. -/
theorem SameUpTo.map {α β : Type} {alike : α → α → Prop} {alike' : β → β → Prop} {x x' : α}
    (h : SameUpTo alike x x' r t) (f : α → β) (hf : ∀ x x', alike x x' → alike' (f x) (f x')) :
    SameUpTo alike' (f x) (f x') r t := by
  obtain ⟨rfl, hrest⟩ | ⟨halike, hfeeds⟩ := h
  · exact .inl ⟨rfl, hrest⟩
  · exact .inr ⟨hf _ _ halike, hfeeds⟩

/-- Parts with something else than line feeds after them are the same. -/
theorem SameUpTo.eq {α : Type} {alike : α → α → Prop} {x x' : α} (hch : ch ≠ '\n')
    (h : SameUpTo alike x x' (s ++ ch :: cs) r) : x = x' ∧ s ++ ch :: cs = r := by
  obtain h | ⟨-, ⟨k, hk⟩, -⟩ := h
  · exact h
  · exact absurd hk (append_cons_ne_feeds hch k)

/-! ### Beginnings of nodes -/

/-- What kind of node or entry begins with a text. -/
inductive Lead
  /-- An item of a sequence. -/
  | item
  /-- The mark of a long key. -/
  | longKey
  /-- A sequence without items. -/
  | emptySequence
  /-- A mapping without entries. -/
  | emptyMapping
  /-- A tag. -/
  | tag
  /-- A scalar, which may be a key. -/
  | scalar
deriving DecidableEq

/-- Spaces and line feeds, which separate a node from what comes before it. -/
def isGap (ch : Char) : Bool := ch == ' ' || ch == '\n'

/-- What begins after the spaces and line feeds of a text. -/
def lead (cs : List Char) : Lead :=
  match cs.dropWhile isGap with
  | '-' :: ' ' :: _ => .item
  | '?' :: ' ' :: _ => .longKey
  | '[' :: _ => .emptySequence
  | '\x7b' :: _ => .emptyMapping
  | '!' :: _ => .tag
  | _ => .scalar

theorem lead_append (hs : ∀ ch ∈ s, isGap ch) (cs : List Char) : lead (s ++ cs) = lead cs := by
  rw [lead, List.dropWhile_append_of_pos hs, lead]

/-- After the items of a sequence at a margin comes what leaves that margin, or a line at the margin
that is no item. -/
inductive LeavesItems (n : Nat) (broken : Bool) : List Char → Prop
  | outer {r : List Char} (h : Leaves n broken r) : LeavesItems n broken r
  | line {ch : Char} {cs : List Char} (hch : isSolid ch) (hlead : lead (ch :: cs) ≠ .item) :
    LeavesItems n broken (newLine broken n ++ ch :: cs)

theorem LeavesItems.leaves (h : LeavesItems n broken r) : Leaves (n + 1) broken r := by
  cases h with
  | outer h => exact h.mono (Nat.le_succ n)
  | line hch _ => exact .line (Nat.lt_succ_self n) hch

/-- No further item comes after the items. -/
theorem LeavesItems.ne_item (h : LeavesItems n broken r) :
    r ≠ newLine broken n ++ '-' :: ' ' :: cs := by
  cases h with
  | outer h => exact h.ne_line (by decide)
  | line hch hlead =>
    intro heq
    obtain ⟨-, hitem⟩ := newLine_inj hch (by decide) heq
    rw [hitem] at hlead
    exact hlead rfl

end BoundaryContract.Yaml
