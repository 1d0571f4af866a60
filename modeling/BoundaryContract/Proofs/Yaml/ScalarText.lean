import BoundaryContract.Proofs.Yaml.Literal
import BoundaryContract.Proofs.Yaml.Plain
import BoundaryContract.Proofs.Yaml.Quoted
import BoundaryContract.Proofs.Yaml.Seam

/-!
# Scalars are told apart by their text

The text of a string begins with the mark of its style and says itself where it ends, so it
determines the string and what comes after it (`string_unique`). The one exception is a literal
block at the end of the document that keeps the line breaks it ends in (`KeepsBreaks`): line feeds
after it cannot be told from its own.

Nothing is read by a parser that looks ahead here: two texts that agree are taken apart at the same
time, character by character or by the readers of quoted scalars.
-/

namespace BoundaryContract.Yaml

open Text

variable {N k : Nat} {broken flag : Bool} {ch : Char} {s s' r r' cs : List Char}

/-! ### Literal blocks -/

/-- Whether a line begins after a content, if one did before it exactly if `flag` holds. -/
def brokenAfter (flag : Bool) : List Char → Bool
  | [] => flag
  | ch :: cs => brokenAfter (isBreak ch) cs

/-- The flag matters for the empty content only. -/
theorem brokenAfter_eq (flag : Bool) (hs : s ≠ []) : brokenAfter flag s = isBroken s := by
  induction s generalizing flag with
  | nil => exact absurd rfl hs
  | cons ch s ih =>
    rw [brokenAfter]
    cases s with
    | nil => rfl
    | cons d s =>
      rw [ih _ (List.cons_ne_nil d s)]
      exact (isBroken_append (List.cons_ne_nil d s) [ch]).symm

/-- Line feeds at the end of a block are written as they are. -/
theorem literalBody_append_feeds (N : Nat) (flag : Bool) (s : List Char) (k : Nat) :
    literalBody N flag (s ++ feeds k) = literalBody N flag s ++ feeds k := by
  induction s generalizing flag with
  | nil =>
    induction k generalizing flag with
    | zero => rfl
    | succ k ih =>
      exact congrArg ('\n' :: ·) (ih true)
  | cons ch s ih =>
    rw [List.cons_append, literalBody, literalBody]
    split
    · rw [ih, List.cons_append]
    · rw [ih, List.append_assoc, List.cons_append]

/-- What leaves a block does not go on with it: a line of the block would be indented deeper. -/
theorem exists_feeds_of_leaves (hr : Leaves N flag r)
    (h : r = literalBody N flag s ++ r') : ∃ k, s = feeds k := by
  induction s generalizing flag r with
  | nil => exact ⟨0, rfl⟩
  | cons ch s ih =>
    rw [literalBody] at h
    by_cases hch : isBreak ch
    · rw [if_pos hch, List.cons_append] at h
      suffices hfeeds : ch = '\n' ∧ ∃ k, s = feeds k by
        obtain ⟨rfl, k, rfl⟩ := hfeeds
        exact ⟨k + 1, rfl⟩
      cases hr with
      | ends k =>
        cases k with
        | zero => cases h
        | succ k =>
          obtain ⟨hfeed, hrest⟩ := List.cons.inj h
          exact ⟨hfeed.symm, ih (.ends k) hrest⟩
      | @line m d ds hm hd =>
        cases flag with
        | true =>
          -- at the start of a line there is either a space or something solid
          have hline : margin m ++ d :: ds = ch :: (literalBody N true s ++ r') := h
          cases m with
          | zero =>
            obtain ⟨rfl, -⟩ := List.cons.inj hline
            rw [isBreak_of_isSolid hd] at hch
            cases hch
          | succ m =>
            obtain ⟨rfl, -⟩ := List.cons.inj hline
            cases hch
        | false =>
          have hleaves : Leaves N true (margin m ++ d :: ds) := .line hm hd
          obtain ⟨hfeed, hrest⟩ := List.cons.inj h
          exact ⟨hfeed.symm, ih hleaves hrest⟩
    · exfalso
      rw [if_neg hch] at h
      have hne : ch ≠ '\n' := by
        rintro rfl
        exact hch (by decide)
      cases hr with
      | ends k =>
        rw [List.append_assoc, List.cons_append] at h
        exact append_cons_ne_feeds hne k h.symm
      | @line m d ds hm hd =>
        cases flag with
        | true =>
          rw [if_pos rfl, List.append_assoc] at h
          exact margin_ne (ne_space_of_isSolid hd) hm h
        | false =>
          obtain ⟨hfeed, -⟩ := List.cons.inj h
          exact hne hfeed.symm

/-- No line begins with a break. -/
theorem break_ne (hN : 0 < N) {d : Char} {t u : List Char} (hch : isBreak ch)
    (hd : ¬ isBreak d) : ch :: t ≠ (if flag then margin N else []) ++ d :: u := by
  intro h
  cases flag with
  | true =>
    obtain ⟨n, rfl⟩ : ∃ n, N = n + 1 := ⟨N - 1, by omega⟩
    obtain ⟨rfl, -⟩ := List.cons.inj h
    cases hch
  | false =>
    obtain ⟨rfl, -⟩ := List.cons.inj h
    exact hd hch

/-- A content whose block goes on like that of another one is continued by line feeds at most, or
ends before the other does. -/
theorem exists_feeds_or_shorter (hN : 0 < N) (hr : Leaves N (brokenAfter flag s) r)
    (h : literalBody N flag s ++ r = literalBody N flag s' ++ r') :
    (∃ k, s' = s ++ feeds k) ∨ ∃ ch cs, s = s' ++ ch :: cs := by
  induction s generalizing flag s' with
  | nil => exact .inl (exists_feeds_of_leaves hr h)
  | cons ch s ih =>
    cases s' with
    | nil => exact .inr ⟨ch, s, rfl⟩
    | cons d s' =>
      -- the same characters come next, and after them the contents are compared further
      suffices hnext : ch = d ∧
          literalBody N (isBreak ch) s ++ r = literalBody N (isBreak ch) s' ++ r' by
        obtain ⟨rfl, hrest⟩ := hnext
        obtain ⟨k, rfl⟩ | ⟨c, cs, rfl⟩ := ih hr hrest
        · exact .inl ⟨k, rfl⟩
        · exact .inr ⟨c, cs, rfl⟩
      rw [literalBody, literalBody] at h
      by_cases hch : isBreak ch <;> by_cases hd : isBreak d
      · rw [if_pos hch, if_pos hd] at h
        rw [hch]
        exact List.cons.inj h
      · rw [if_pos hch, if_neg hd, List.append_assoc, List.cons_append] at h
        exact absurd h (break_ne hN hch hd)
      · rw [if_neg hch, if_pos hd, List.append_assoc, List.cons_append] at h
        exact absurd h.symm (break_ne hN hd hch)
      · rw [if_neg hch, if_neg hd, List.append_assoc, List.append_assoc,
          List.append_right_inj] at h
        rw [Bool.not_eq_true] at hch
        rw [hch]
        exact List.cons.inj h

/-- Of two contents whose blocks go on alike, one goes on with line feeds where the other ends. -/
theorem exists_feeds_of_literalBody (hN : 0 < N) (hr : Leaves N (brokenAfter flag s) r)
    (hr' : Leaves N (brokenAfter flag s') r')
    (h : literalBody N flag s ++ r = literalBody N flag s' ++ r') :
    ∃ k, s' = s ++ feeds k ∨ s = s' ++ feeds k := by
  obtain ⟨k, hk⟩ | ⟨ch, cs, hshort⟩ := exists_feeds_or_shorter hN hr h
  · exact ⟨k, .inl hk⟩
  · obtain ⟨k, hk⟩ | ⟨d, ds, hshort'⟩ := exists_feeds_or_shorter hN hr' h.symm
    · exact ⟨k, .inr hk⟩
    · have hlength := congrArg List.length hshort
      have hlength' := congrArg List.length hshort'
      rw [List.length_append, List.length_cons] at hlength hlength'
      omega

/-! ### Headers -/

open Scalar (chompingFor hidesMargin)

/-- The header of a block says how the breaks at the end are kept. -/
theorem chompingFor_eq_of_header
    (h : literalHeader s ++ '\n' :: r = literalHeader s' ++ '\n' :: r') :
    chompingFor s = chompingFor s' ∧ r = r' := by
  -- both headers are read from the same place
  have hread (t u : List Char) : ∃ c',
      Scalar.header .origin (Cursor.skip ⟨literalHeader t ++ '\n' :: u, .origin⟩ 1) =
      .ok (chompingFor t, if hidesMargin t then 2 else 0, c') ∧ c'.rest = '\n' :: u := by
    refine Scalar.header_append .origin ?_
    rw [Scalar.literalHeader_eq]
    rfl
  obtain ⟨c₁, hc, hrest⟩ := hread s r
  obtain ⟨c₂, hc', hrest'⟩ := hread s' r'
  rw [h, hc', Except.ok.injEq, Prod.mk.injEq, Prod.mk.injEq] at hc
  obtain ⟨hchomping, -, rfl⟩ := hc
  rw [hrest'] at hrest
  exact ⟨hchomping.symm, (List.cons.inj hrest).2.symm⟩

/-- Where a line feed stands at the end, it is kept if there is a break before it, or nothing. -/
theorem chompingFor_concat_feed (s : List Char) :
    chompingFor (s ++ ['\n']) = if isBroken s then .keep else .clip := by
  have hfeed : isBreak '\n' := by decide
  obtain rfl | ⟨t, ch, rfl⟩ := List.eq_nil_or_concat s
  · rfl
  · rw [List.concat_eq_append, isBroken_concat]
    by_cases hch : isBreak ch
    · rw [Scalar.chompingFor_keep hch hfeed, if_pos hch]
    · rw [Scalar.chompingFor_clip (by simpa using hch) hfeed, if_neg hch]

/-- If a content is chomped like the same content with line feeds added, it keeps the breaks that it
ends in. -/
theorem keep_of_feeds (h : chompingFor s = chompingFor (s ++ feeds (k + 1))) :
    chompingFor s = .keep ∧ isBroken s := by
  have hadded : s ++ feeds (k + 1) = s ++ feeds k ++ ['\n'] := by
    rw [feeds, List.replicate_succ', ← feeds, List.append_assoc]
  rw [hadded, chompingFor_concat_feed] at h
  obtain rfl | ⟨t, ch, rfl⟩ := List.eq_nil_or_concat s
  · -- nothing is stripped, and line feeds alone are kept
    split at h <;> cases h
  · rw [List.concat_eq_append] at h ⊢
    by_cases hch : isBreak ch
    · have hbroken : isBroken (t ++ [ch] ++ feeds k) := by
        cases k with
        | zero => rwa [feeds, List.replicate_zero, List.append_nil, isBroken_concat]
        | succ k =>
          rw [feeds, List.replicate_succ', ← List.append_assoc, isBroken_concat]
          decide
      rw [if_pos hbroken] at h
      exact ⟨h, by rwa [isBroken_concat]⟩
    · rw [Scalar.chompingFor_strip (by simpa using hch)] at h
      split at h <;> cases h

/-! ### Strings in literal blocks -/

/-- The string is written in a literal block that keeps the breaks it ends in. -/
def KeepsBreaks (s : String) : Prop := Style.choose s = .literal ∧ chompingFor s.toList = .keep

/-- Both strings are written in literal blocks that keep the breaks they end in, and they differ in
the number of line feeds there. -/
def AlikeStrings (s t : String) : Prop :=
  KeepsBreaks s ∧ KeepsBreaks t ∧ AlikeButFeeds s.toList t.toList

theorem AlikeStrings.symm {s t : String} (h : AlikeStrings s t) : AlikeStrings t s :=
  ⟨h.2.1, h.1, h.2.2.symm⟩

theorem stringChars_of_literal {t : String} (ht : Style.choose t = .literal) (N : Nat) :
    stringChars N t = literalHeader t.toList ++ '\n' :: literalBody N true t.toList := by
  rw [stringChars, ht]

/-- After the string comes what leaves its block. -/
theorem Leaves.literalBody {t : String} (ht : Style.choose t = .literal)
    (hr : Leaves N (isBroken (stringChars N t)) r) : Leaves N (brokenAfter true t.toList) r := by
  have hne := (literal_of_choose ht).1
  have hbody : Yaml.literalBody N true t.toList ≠ [] := by
    intro hnil
    have hlast := getLast?_literalBody N hne true
    rw [hnil, List.getLast?_nil] at hlast
    exact hne (List.getLast?_eq_none_iff.mp hlast.symm)
  have hbroken : isBroken (stringChars N t) = brokenAfter true t.toList := by
    rw [brokenAfter_eq true hne, stringChars_of_literal ht, isBroken_append (List.cons_ne_nil _ _),
      ← List.singleton_append, isBroken_append hbody, isBroken, getLast?_literalBody N hne,
        isBroken]
  rwa [hbroken] at hr

/-- If one content goes on with line feeds where the other ends, so does what comes after its block.
-/
theorem sameUpTo_of_feeds {t t' : String} (ht : Style.choose t = .literal)
    (ht' : Style.choose t' = .literal) (hr : Leaves N (isBroken (stringChars N t)) r)
    (hchomping : chompingFor t.toList = chompingFor t'.toList)
    (h : literalBody N true t.toList ++ r = literalBody N true t'.toList ++ r')
    (hk : t'.toList = t.toList ++ feeds k) : SameUpTo AlikeStrings t t' r r' := by
  rw [hk, literalBody_append_feeds, List.append_assoc, List.append_right_inj] at h
  cases k with
  | zero =>
    rw [feeds, List.replicate_zero, List.append_nil] at hk
    exact .inl ⟨(String.toList_inj.mp hk).symm, h⟩
  | succ k =>
    rw [hk] at hchomping
    obtain ⟨hkeep, hbroken⟩ := keep_of_feeds hchomping
    have hne := (literal_of_choose ht).1
    have hleaves := hr.literalBody ht
    rw [brokenAfter_eq true hne, hbroken] at hleaves
    -- the breaks are kept, so the header of the longer content is the same
    have halike : AlikeStrings t t' := by
      refine ⟨⟨ht, hkeep⟩, ⟨ht', ?_⟩, ?_⟩
      · rw [hk, ← hchomping, hkeep]
      · rw [hk]
        exact .append_feeds _ _
    rw [h, feeds_succ, List.cons_append] at hleaves
    obtain ⟨j, hj⟩ := hleaves.exists_feeds
    rw [← List.cons_append, ← feeds_succ, ← h] at hj
    have hrest : feeds (k + 1) ++ r' = feeds j := by rw [← h, hj]
    exact .inr ⟨halike, ⟨j, hj⟩, (exists_feeds_of_append hrest).2⟩

/-- The text of a literal block determines the string, up to line feeds that are kept at the end. -/
theorem literal_unique {t t' : String} (hN : 0 < N) (ht : Style.choose t = .literal)
    (ht' : Style.choose t' = .literal) (hr : Leaves N (isBroken (stringChars N t)) r)
    (hr' : Leaves N (isBroken (stringChars N t')) r')
    (h : stringChars N t ++ r = stringChars N t' ++ r') : SameUpTo AlikeStrings t t' r r' := by
  rw [stringChars_of_literal ht, stringChars_of_literal ht', List.append_assoc, List.append_assoc,
    List.cons_append, List.cons_append] at h
  obtain ⟨hchomping, hbody⟩ := chompingFor_eq_of_header h
  obtain ⟨k, hk | hk⟩ :=
    exists_feeds_of_literalBody hN (hr.literalBody ht) (hr'.literalBody ht') hbody
  · exact sameUpTo_of_feeds ht ht' hr hchomping hbody hk
  · have hsame := sameUpTo_of_feeds ht' ht hr' hchomping.symm hbody.symm hk
    exact hsame.symm fun _ _ => AlikeStrings.symm

/-! ### Plain scalars -/

/-- A scalar on one line stops here: at the end of the line or at the colon after a key. -/
inductive Stops : List Char → Prop
  | nil : Stops []
  | line (cs : List Char) : Stops ('\n' :: cs)
  | colon {cs : List Char} (hcs : endsWord cs) : Stops (':' :: cs)

/-- A scalar that stops is followed by no quote. -/
theorem Stops.head?_ne_quote (h : Stops r) : r.head? ≠ some '\'' := by
  intro heq
  cases h with
  | nil => cases heq
  | line cs => cases heq
  | colon hcs => cases heq

/-- A colon inside a plain scalar does not end a word. -/
theorem endsWord_of_badInside {ended : Bool}
    (h : Allowance.badInside ended (s ++ ':' :: cs) = false) : endsWord cs = false := by
  induction s generalizing ended with
  | nil => exact (Allowance.badInside_cons h).1 rfl
  | cons ch s ih => exact ih (Allowance.badInside_cons h).2.2

/-- A content that stands plainly does not go on where a scalar stops. -/
theorem not_stops_of_allowsPlain (hs : AllowsPlain (s ++ ch :: cs)) (r : List Char) :
    ¬ Stops (ch :: cs ++ r) := by
  intro hstops
  have hwords := hs.words
  generalize ht : ch :: cs ++ r = t at hstops
  cases hstops with
  | nil => cases ht
  | line t =>
    obtain ⟨rfl, -⟩ := List.cons.inj ht
    have hbreak := (hwords.unbroken '\n' (by simp)).1
    exact absurd hbreak (by decide)
  | @colon t hends =>
    obtain ⟨rfl, rfl⟩ := List.cons.inj ht
    have hnot : endsWord cs = false := endsWord_of_badInside hwords.inside
    have hne : cs ≠ [] := by
      rintro rfl
      cases hnot
    have happend : endsWord (cs ++ r) := hends
    rw [endsWord_append hne, hnot] at happend
    cases happend

/-- The text of a plain scalar determines it. -/
theorem plain_unique (hs : AllowsPlain s) (hs' : AllowsPlain s') (hr : Stops r) (hr' : Stops r')
    (h : s ++ r = s' ++ r') : s = s' ∧ r = r' := by
  obtain ⟨t, rfl, rfl⟩ | ⟨t, rfl, rfl⟩ := List.append_eq_append_iff.mp h
  · cases t with
    | nil => exact ⟨(List.append_nil s).symm, rfl⟩
    | cons ch t => exact absurd hr (not_stops_of_allowsPlain hs' r')
  · cases t with
    | nil => exact ⟨List.append_nil s', rfl⟩
    | cons ch t => exact absurd hr' (not_stops_of_allowsPlain hs r)

/-! ### Styles -/

/-- The style that the first character of a scalar tells. -/
def styleOf : List Char → Style
  | '\'' :: _ => .singleQuoted
  | '"' :: _ => .doubleQuoted
  | '|' :: _ => .literal
  | _ => .plain

/-- What may stand plainly is taken for a plain scalar. -/
theorem styleOf_plain (hs : AllowsPlain s) (r : List Char) : styleOf (s ++ r) = .plain := by
  obtain ⟨ch, cs, rfl⟩ := List.exists_cons_of_ne_nil hs.1
  have hstart := hs.rules.2.1
  rw [Allowance.badStart, Bool.or_eq_false_iff] at hstart
  obtain ⟨hindicator, -⟩ := hstart
  rw [List.cons_append, styleOf.eq_def]
  split
  · next heq =>
    obtain ⟨rfl, -⟩ := List.cons.inj heq
    exact absurd hindicator (by decide)
  · next heq =>
    obtain ⟨rfl, -⟩ := List.cons.inj heq
    exact absurd hindicator (by decide)
  · next heq =>
    obtain ⟨rfl, -⟩ := List.cons.inj heq
    exact absurd hindicator (by decide)
  · rfl

/-- The first character of a string tells its style. -/
theorem styleOf_stringChars (N : Nat) (t : String) (r : List Char) :
    styleOf (stringChars N t ++ r) = Style.choose t := by
  cases hstyle : Style.choose t with
  | plain =>
    rw [stringChars_of_plain hstyle]
    exact styleOf_plain (allowsPlain_of_choose hstyle) r
  | singleQuoted | doubleQuoted | literal =>
    rw [stringChars, hstyle]
    rfl

/-! ### Strings -/

section Strings

variable {t t' : String}

/-- What can come after a string: what leaves its margin, or the colon after a key. -/
inductive EndsString (N : Nat) (t : String) : List Char → Prop
  | leaves {r : List Char} (h : Leaves N (isBroken (stringChars N t)) r) : EndsString N t r
  | colon {cs : List Char} (hsimple : isSimpleKey t) (hcs : endsWord cs) :
    EndsString N t (':' :: cs)

/-- No line begins after a plain scalar. -/
theorem isBroken_of_allowsPlain (hs : AllowsPlain s) : isBroken s = false := by
  obtain rfl | ⟨cs, ch, rfl⟩ := List.eq_nil_or_concat s
  · exact absurd rfl hs.1
  · rw [List.concat_eq_append] at hs ⊢
    rw [isBroken_concat]
    exact (hs.words.unbroken ch (by simp)).1

/-- No line begins after a string on one line. -/
theorem isBroken_stringChars (ht : Style.choose t ≠ .literal) (N : Nat) :
    isBroken (stringChars N t) = false := by
  cases hstyle : Style.choose t with
  | plain =>
    rw [stringChars_of_plain hstyle]
    exact isBroken_of_allowsPlain (allowsPlain_of_choose hstyle)
  | singleQuoted | doubleQuoted =>
    rw [stringChars, hstyle]
    simp only
    rw [isBroken_concat]
    decide
  | literal => exact absurd hstyle ht

/-- Where a literal block is chosen, there is a line feed. -/
theorem feed_mem_of_choose (ht : Style.choose t = .literal) : '\n' ∈ t.toList := by
  by_contra hmem
  simp only [Style.choose] at ht
  rw [if_neg (by simpa using hmem)] at ht
  split at ht
  · split at ht <;> cases ht
  · cases ht

/-- A key that stands before its colon on one line is written in none. -/
theorem choose_ne_literal (hsimple : isSimpleKey t) : Style.choose t ≠ .literal := by
  intro ht
  simp only [isSimpleKey, Bool.and_eq_true, Bool.not_eq_true', List.any_eq_false] at hsimple
  exact absurd (by decide) (hsimple.1 '\n' (feed_mem_of_choose ht))

/-- A literal block ends with its margin, since it is no key. -/
theorem EndsString.leaves_of_literal (h : EndsString N t r) (ht : Style.choose t = .literal) :
    Leaves N (isBroken (stringChars N t)) r := by
  cases h with
  | leaves h => exact h
  | colon hsimple _ => exact absurd ht (choose_ne_literal hsimple)

/-- A scalar on one line stops at what leaves its margin. -/
theorem Leaves.stops (h : Leaves N false r) : Stops r := by
  cases h with
  | ends k =>
    cases k with
    | zero => exact .nil
    | succ k => exact .line (feeds k)
  | @line m ch cs _ _ => exact .line (margin m ++ ch :: cs)

/-- A string on one line stops at what can come after it. -/
theorem EndsString.stops (h : EndsString N t r) (ht : Style.choose t ≠ .literal) : Stops r := by
  cases h with
  | leaves h =>
    rw [isBroken_stringChars ht] at h
    exact h.stops
  | colon _ hcs => exact .colon hcs

/-- What is read from quotes at one place is one string, with one text after it. -/
theorem quoted_unique {single : Bool} {c c₁ c₂ : Cursor}
    (hread : Scalar.quoted single c = .ok (t.toList, c₁)) (hrest : c₁.rest = r)
    (hread' : Scalar.quoted single c = .ok (t'.toList, c₂)) (hrest' : c₂.rest = r') :
    t = t' ∧ r = r' := by
  rw [hread, Except.ok.injEq, Prod.mk.injEq] at hread'
  obtain ⟨hsame, rfl⟩ := hread'
  exact ⟨String.toList_inj.mp hsame, hrest.symm.trans hrest'⟩

/-- The text of a string determines the string and what comes after it, up to line feeds at the
end. -/
theorem string_unique (hN : 0 < N) (hr : EndsString N t r) (hr' : EndsString N t' r')
    (h : stringChars N t ++ r = stringChars N t' ++ r') : SameUpTo AlikeStrings t t' r r' := by
  -- the style shows in the text, so the strings are written alike
  have hstyle : Style.choose t = Style.choose t' := by
    rw [← styleOf_stringChars N t r, h, styleOf_stringChars]
  cases ht : Style.choose t with
  | plain =>
    have ht' := hstyle.symm.trans ht
    rw [stringChars_of_plain ht, stringChars_of_plain ht'] at h
    obtain ⟨hsame, hrest⟩ := plain_unique (allowsPlain_of_choose ht) (allowsPlain_of_choose ht')
      (hr.stops (by simp [ht])) (hr'.stops (by simp [ht'])) h
    exact .inl ⟨String.toList_inj.mp hsame, hrest⟩
  | singleQuoted =>
    have ht' := hstyle.symm.trans ht
    have hquote := (hr.stops (by simp [ht])).head?_ne_quote
    have hquote' := (hr'.stops (by simp [ht'])).head?_ne_quote
    let c : Cursor := ⟨stringChars N t ++ r, .origin⟩
    obtain ⟨-, c₁, hread, hrest⟩ := quoted_single (c := c) ht hN rfl hquote
    obtain ⟨-, c₂, hread', hrest'⟩ := quoted_single (c := c) ht' hN h hquote'
    exact .inl (quoted_unique hread hrest hread' hrest')
  | doubleQuoted =>
    have ht' := hstyle.symm.trans ht
    let c : Cursor := ⟨stringChars N t ++ r, .origin⟩
    obtain ⟨-, c₁, hread, hrest⟩ := quoted_double (c := c) ht rfl
    obtain ⟨-, c₂, hread', hrest'⟩ := quoted_double (c := c) ht' h
    exact .inl (quoted_unique hread hrest hread' hrest')
  | literal =>
    have ht' := hstyle.symm.trans ht
    exact literal_unique hN ht ht' (hr.leaves_of_literal ht) (hr'.leaves_of_literal ht') h

/-- The margin does not matter for a key on one line. -/
theorem stringChars_of_simple (hsimple : isSimpleKey t) (N N' : Nat) :
    stringChars N t = stringChars N' t := by
  have hunbroken : ∀ ch ∈ t.toList, isBreak ch = false := by
    simp only [isSimpleKey, Bool.and_eq_true, Bool.not_eq_true', List.any_eq_false] at hsimple
    intro ch hch
    simpa using hsimple.1 ch hch
  have hbody (N : Nat) : singleQuotedBody N false t.toList = t.toList.flatMap doubledQuote := by
    have happend : singleQuotedBody N false (t.toList ++ []) =
        t.toList.flatMap doubledQuote ++ singleQuotedBody N false [] :=
      singleQuotedBody_append hunbroken
    rwa [List.append_nil, singleQuotedBody, if_neg Bool.false_ne_true, List.append_nil] at happend
  cases hstyle : Style.choose t with
  | plain | doubleQuoted => rw [stringChars, stringChars, hstyle]
  | singleQuoted =>
    rw [stringChars, stringChars, hstyle]
    simp only
    rw [hbody, hbody]
  | literal => exact absurd hstyle (choose_ne_literal hsimple)

/-- A string begins with something solid in every style. -/
theorem exists_stringChars (N : Nat) (t : String) :
    ∃ ch cs, stringChars N t = ch :: cs ∧ isSolid ch := by
  cases hstyle : Style.choose t with
  | plain =>
    rw [stringChars_of_plain hstyle]
    exact (allowsPlain_of_choose hstyle).words.first
  | singleQuoted | doubleQuoted | literal =>
    rw [stringChars, hstyle]
    exact ⟨_, _, rfl, by decide⟩

/-- A string that stands plainly is mistaken for nothing else. -/
theorem isMistakable_of_choose (ht : Style.choose t = .plain) : Plain.isMistakable t = false := by
  by_contra hmistakable
  rw [Bool.not_eq_false] at hmistakable
  simp only [Style.choose, hmistakable, Bool.true_or, if_true] at ht
  split at ht
  · split at ht <;> cases ht
  · split at ht <;> cases ht

/-- A text that stands as it is although a string would not is told from all strings. -/
theorem plain_ne_string {text : String} (hplain : AllowsPlain text.toList)
    (hmistakable : Plain.isMistakable text) (hr : Stops r) (hr' : EndsString N t r') :
    text.toList ++ r ≠ stringChars N t ++ r' := by
  intro h
  -- the string would stand as it is, and would be the same text
  have ht : Style.choose t = .plain := by
    rw [← styleOf_stringChars N t r', ← h, styleOf_plain hplain]
  rw [stringChars_of_plain ht] at h
  have hstops := hr'.stops (by simp [ht])
  obtain ⟨hsame, -⟩ := plain_unique hplain (allowsPlain_of_choose ht) hr hstops h
  rw [String.toList_inj.mp hsame, isMistakable_of_choose ht] at hmistakable
  cases hmistakable

end Strings

end BoundaryContract.Yaml
