import BoundaryContract.Console
import Mathlib.Data.List.TakeWhile

/-!
# Line feeds at the end of a text

Two texts are alike but for line feeds if they differ in nothing but the number of line feeds that
they end in (`AlikeButFeeds`). This is what is no longer seen once both are finished with a single
line break (`Console.oneBreak_eq_oneBreak`).
-/

namespace BoundaryContract

namespace Text

/-- So many line feeds. -/
def feeds (k : Nat) : List Char := List.replicate k '\n'

variable {s t : List Char} {k : Nat}

theorem feeds_succ (k : Nat) : feeds (k + 1) = '\n' :: feeds k := rfl

theorem eq_of_mem_feeds {ch : Char} (h : ch ∈ feeds k) : ch = '\n' := List.eq_of_mem_replicate h

/-- The parts of a text of line feeds are line feeds. -/
theorem exists_feeds_of_append (h : s ++ t = feeds k) :
    (∃ m, s = feeds m) ∧ ∃ n, t = feeds n := by
  obtain ⟨-, hs, ht⟩ := List.append_eq_replicate_iff.mp h
  exact ⟨⟨_, hs⟩, ⟨_, ht⟩⟩

/-- The texts differ in nothing but the number of line feeds that they end in. -/
def AlikeButFeeds (s t : List Char) : Prop := ∃ m n, s ++ feeds m = t ++ feeds n

namespace AlikeButFeeds

theorem symm (h : AlikeButFeeds s t) : AlikeButFeeds t s := by
  obtain ⟨m, n, h⟩ := h
  exact ⟨n, m, h.symm⟩

theorem append_feeds (s : List Char) (k : Nat) : AlikeButFeeds s (s ++ feeds k) :=
  ⟨k, 0, (List.append_nil _).symm⟩

theorem refl (s : List Char) : AlikeButFeeds s s := by
  have h := append_feeds s 0
  rwa [feeds, List.replicate_zero, List.append_nil] at h

theorem append_left (r : List Char) (h : AlikeButFeeds s t) : AlikeButFeeds (r ++ s) (r ++ t) := by
  obtain ⟨m, n, h⟩ := h
  exact ⟨m, n, by rw [List.append_assoc, List.append_assoc, h]⟩

/-- Of two texts that are alike but for line feeds, one goes on with line feeds where the other
ends. -/
theorem exists_append (h : AlikeButFeeds s t) :
    ∃ k, t = s ++ feeds k ∨ s = t ++ feeds k := by
  obtain ⟨m, n, h⟩ := h
  obtain ⟨u, rfl, hu⟩ | ⟨u, rfl, hu⟩ := List.append_eq_append_iff.mp h
  · obtain ⟨⟨k, rfl⟩, -⟩ := exists_feeds_of_append hu.symm
    exact ⟨k, .inl rfl⟩
  · obtain ⟨⟨k, rfl⟩, -⟩ := exists_feeds_of_append hu.symm
    exact ⟨k, .inr rfl⟩

end AlikeButFeeds

end Text

namespace Console

open Text

variable {s t : List Char}

/-- A text without the line feeds at its end. -/
def stripped (s : List Char) : List Char :=
  (s.reverse.dropWhile fun ch => decide (ch = '\n')).reverse

theorem stripped_append_feeds (s : List Char) (k : Nat) : stripped (s ++ feeds k) = stripped s := by
  have hfeeds : ∀ ch ∈ feeds k, decide (ch = '\n') := fun ch hch =>
    decide_eq_true (eq_of_mem_feeds hch)
  rw [stripped, List.reverse_append, feeds, List.reverse_replicate, ← feeds,
    List.dropWhile_append_of_pos hfeeds, stripped]

/-- Nothing but line feeds is stripped. -/
theorem exists_stripped_append (s : List Char) : ∃ k, s = stripped s ++ feeds k := by
  let isFeed : Char → Bool := fun ch => decide (ch = '\n')
  have hfeeds : s.reverse.takeWhile isFeed = feeds (s.reverse.takeWhile isFeed).length := by
    refine List.eq_replicate_iff.mpr ⟨rfl, ?_⟩
    intro ch hch
    have hfeed : isFeed ch := List.mem_takeWhile_imp hch
    exact of_decide_eq_true hfeed
  refine ⟨(s.reverse.takeWhile isFeed).length, ?_⟩
  calc
    s = (s.reverse.takeWhile isFeed ++ s.reverse.dropWhile isFeed).reverse := by
      rw [List.takeWhile_append_dropWhile, List.reverse_reverse]
    _ = stripped s ++ (s.reverse.takeWhile isFeed).reverse := List.reverse_append
    _ = stripped s ++ feeds (s.reverse.takeWhile isFeed).length := by
      rw [hfeeds, feeds, List.reverse_replicate, List.length_replicate, feeds]

/-- Two texts are stripped to the same when they are alike. -/
theorem stripped_eq_stripped : stripped s = stripped t ↔ AlikeButFeeds s t := by
  constructor
  · intro h
    obtain ⟨m, hs⟩ := exists_stripped_append s
    obtain ⟨n, ht⟩ := exists_stripped_append t
    have hfeeds : feeds m ++ feeds n = feeds n ++ feeds m := by
      simp only [feeds, List.replicate_append_replicate, Nat.add_comm]
    refine ⟨n, m, ?_⟩
    rw [hs, ht, h, List.append_assoc, List.append_assoc, hfeeds]
  · rintro ⟨m, n, h⟩
    rw [← stripped_append_feeds s m, h, stripped_append_feeds]

/-- Finished texts are the same exactly if the texts are alike but for line feeds. -/
theorem oneBreak_eq_oneBreak {a b : String} :
    oneBreak a = oneBreak b ↔ AlikeButFeeds a.toList b.toList := by
  have hline : ∀ text : String, oneBreak text = String.ofList (stripped text.toList ++ ['\n']) := by
    intro text
    rw [String.ofList_append]
    rfl
  rw [hline, hline, String.ofList_inj, List.append_left_inj, stripped_eq_stripped]

end Console

/-- Line feeds that are added do not matter. -/
theorem Text.AlikeButFeeds.append_feeds_iff {s t : List Char} {m n : Nat} :
    AlikeButFeeds (s ++ feeds m) (t ++ feeds n) ↔ AlikeButFeeds s t := by
  rw [← Console.stripped_eq_stripped, ← Console.stripped_eq_stripped,
    Console.stripped_append_feeds, Console.stripped_append_feeds]

end BoundaryContract
