import BoundaryContract.Proofs.Yaml.Lexer

/-!
# Keys and the ends of mappings

At the start of a line the lexer does not know yet that a scalar is a key, so the scalar waits until
the colon after it has been found, and a mapping that is deeper than the ones around it is opened
only then (`Between.emits_key`). The end of a mapping is found before the next key, one mapping
after another. `Between.emits_blockEnd` gives out the end of the innermost one, and leaves the lexer
as it would be if that mapping had never been opened: giving out a token and finding further ones
commute.
-/

namespace BoundaryContract.Yaml.Lexer

variable {s s' : Lexer} {fuel m n : Nat} {indent outer column : Int} {indents rest : List Int}
  {cs tail : List Char} {key : String} {t : Token} {c : Cursor}

/-! ### Opening a mapping -/

/-- The token that opens a mapping at a column, unless it is open already. -/
def opening (indent : Int) (column : Nat) : List TokenKind :=
  if indent < column then [.blockMappingStart] else []

/-- The blocks around a mapping at a column, once that is open. -/
def opened (indent : Int) (indents : List Int) (column : Nat) : List Int :=
  if indent < column then indent :: indents else indents

theorem opening_of_lt (h : indent < n) : opening indent n = [.blockMappingStart] := if_pos h

theorem opening_self (n : Nat) : opening n n = [] := if_neg (Int.lt_irrefl _)

theorem opened_of_lt (h : indent < n) : opened indent indents n = indent :: indents := if_pos h

theorem opened_self (indents : List Int) (n : Nat) : opened n indents n = indents :=
  if_neg (Int.lt_irrefl _)

/-- Opening a mapping keeps the columns in order. -/
theorem Nested.opened (h : Nested indent indents) (hindent : indent ≤ n) :
    Nested n (opened indent indents n) := by
  obtain hlt | rfl := Int.lt_or_eq_of_le hindent
  · rw [opened_of_lt hlt]
    exact ⟨hlt, h⟩
  · rw [opened_self]
    exact h

/-! ### Possible keys -/

/-- A scalar that could be a key waits, and its place is remembered. -/
def foundKey (s : Lexer) (key : String) : Lexer :=
  let next := s.cursor.skip key.toList.length
  { s with
    blockKey :=
      some ⟨s.indent == (s.cursor.mark.column : Int), s.taken + s.queue.length, s.cursor.mark⟩
    keyAllowed := false
    cursor := next
    queue := s.queue ++ [⟨.scalar key.toList .plain, s.cursor.mark, next.mark⟩] }

/-- At the start of a line, a key is found as a scalar. -/
theorem token_key (hs : s.Keyless) (hallowed : s.keyAllowed = true)
    (hplain : Style.choose key = .plain) (hrest : s.cursor.rest = key.toList ++ ':' :: tail)
    (hends : endsWord tail) (hindent : s.indent ≤ s.cursor.mark.column) :
    s.token = .ok (s.foundKey key) := by
  have hw : AllowsPlain key.toList := allowsPlain_of_choose hplain
  have hmarker : s.cursor.atDocumentMarker = false := by
    obtain ⟨ch, cs, hcs⟩ := List.exists_cons_of_ne_nil hw.1
    have hmarks : Allowance.marksDocument key.toList = false := by
      rw [hcs] at hw ⊢
      exact hw.rules.1
    have happend : Allowance.marksDocument (key.toList ++ ':' :: tail) = false :=
      Allowance.marksDocument_append hw.1 hmarks (by simp) (by simp)
    rw [Cursor.atDocumentMarker, hrest, Bool.and_eq_false_iff]
    right
    split
    · next heq =>
      rw [heq] at happend
      cases happend
    · next heq =>
      rw [heq] at happend
      cases happend
    · rfl
  have hmargin : s.margin ≤ s.cursor.mark.column + 1 := by
    rw [margin]
    omega
  have hscan : Scalar.plain false s.margin s.cursor =
      .ok ⟨key.toList, false, s.cursor.skip key.toList.length⟩ :=
    Scalar.plain_at hw hrest (by simp [Scalar.endsPlainWord, hends])
      (beginsSolid_cons.mpr (by decide)) hmargin hmarker
  rw [token_plain hs hw hrest hmarker, plainScalar_eq hs hscan, if_pos hallowed]
  rfl

/-- There are at least as many bytes as characters. -/
theorem length_le_byteLength (cs : List Char) : cs.length ≤ Text.byteLength cs := by
  induction cs with
  | nil => exact Nat.le_refl 0
  | cons ch cs ih =>
    have hsize := ch.utf8Size_pos
    rw [List.length_cons, Text.byteLength]
    omega

/-- A possible key is kept on its line, as a key is not too long. -/
theorem dropStaleKeys_foundKey (hflow : s.flowKeys = []) (hsimple : isSimpleKey key) :
    (s.foundKey key).dropStaleKeys = .ok (s.foundKey key) := by
  have hlength : key.toList.length ≤ 128 := by
    have hle := length_le_byteLength key.toList
    simp only [isSimpleKey, Bool.and_eq_true, decide_eq_true_eq] at hsimple
    omega
  obtain ⟨cursor, indent, indents, blockKey, flowKeys, keyAllowed, queue, taken⟩ := s
  obtain rfl := hflow
  let place : SimpleKey := ⟨indent == (cursor.mark.column : Int), taken + queue.length, cursor.mark⟩
  have hfresh :
      (foundKey ⟨cursor, indent, indents, blockKey, [], keyAllowed, queue, taken⟩ key).isStale
      place = false := by
    simp only [isStale, foundKey, place, Cursor.line_skip, Cursor.index_skip]
    simp
    omega
  rw [dropStaleKeys]
  show (freshen _ (some place) >>= fun _ => _) = _
  rw [freshen, hfresh]
  rfl

/-- While no other token waits, the key itself is held back. -/
theorem isHeld_foundKey (hflow : s.flowKeys = []) :
    (s.foundKey key).isHeld = s.queue.isEmpty := by
  rw [isHeld, foundKey, hflow]
  cases s.queue <;> simp

/-- At the colon, the scalar that was found turns out to be a key. A mapping is opened there if none
is open at the column of the key. -/
theorem value_foundKey (hs : s.Calm) (hindent : s.indent ≤ s.cursor.mark.column) :
    ∃ queue : List Token, (s.foundKey key).value = .ok { s with
        cursor := (s.cursor.skip key.toList.length).skip 1
        indent := s.cursor.mark.column
        indents := opened s.indent s.indents s.cursor.mark.column
        keyAllowed := false
        queue } ∧
      queue.map Token.kind = opening s.indent s.cursor.mark.column ++
        [.key, .scalar key.toList .plain, .value] := by
  obtain ⟨cursor, indent, indents, blockKey, flowKeys, keyAllowed, queue, taken⟩ := s
  obtain ⟨⟨rfl, rfl⟩, rfl, -⟩ := hs
  let mark := cursor.mark
  let next := cursor.skip key.toList.length
  let waiting : List Token :=
    [⟨.key, mark, mark⟩, ⟨.scalar key.toList .plain, mark, next.mark⟩,
      ⟨.value, next.mark, (next.skip 1).mark⟩]
  by_cases hdeep : indent < mark.column
  · refine ⟨⟨.blockMappingStart, mark, mark⟩ :: waiting, ?_, ?_⟩
    · simp [value, key?, foundKey, insert, roll, inFlow, setKey, pushChars, pushTo, push, opened,
        mark, hdeep, waiting, next]
    · rw [opening_of_lt hdeep]
      rfl
  · obtain rfl : indent = mark.column := Int.le_antisymm hindent (Int.not_lt.mp hdeep)
    refine ⟨waiting, ?_, ?_⟩
    · simp [value, key?, foundKey, insert, roll, inFlow, setKey, pushChars, pushTo, push, opened,
        mark, waiting, next]
    · rw [opening_self]
      rfl

/-! ### Giving out tokens -/

/-- The state after the first token has been given out. -/
def give (s : Lexer) : Lexer := { s with queue := s.queue.tail, taken := s.taken + 1 }

/-- Giving out a token and finding a key can change places. -/
theorem foundKey_give (h : s.queue ≠ []) : (s.foundKey key).give = s.give.foundKey key := by
  obtain ⟨cursor, indent, indents, blockKey, flowKeys, keyAllowed, queue, taken⟩ := s
  obtain ⟨t, queue, rfl⟩ := List.exists_cons_of_ne_nil h
  simp only [give, foundKey, List.cons_append, List.tail_cons, List.length_cons]
  rw [Nat.add_assoc, Nat.add_comm 1]

theorem push_give (h : s.queue ≠ []) : (s.push t).give = s.give.push t := by
  rw [give, push, List.tail_append_of_ne_nil h]
  rfl

/-! ### Closing blocks -/

/-- The innermost block collection is closed. -/
def close (s : Lexer) (outer : Int) (rest : List Int) : Lexer :=
  { s.pushEmpty .blockEnd with indent := outer, indents := rest }

theorem closeBlocks_cons (h : column < s.indent) :
    closeBlocks column (outer :: rest) s = closeBlocks column rest (s.close outer rest) := by
  rw [closeBlocks, if_pos h]
  rfl

theorem closeBlocks_eq_self (h : s.indent ≤ column) : closeBlocks column indents s = s := by
  cases indents with
  | nil => rfl
  | cons outer rest => rw [closeBlocks, if_neg (Int.not_lt.mpr h)]

/-- Closing blocks finds their ends and changes nothing else. -/
theorem exists_closeBlocks (column : Int) (indents : List Int) (s : Lexer) :
    ∃ indent' indents' ends, closeBlocks column indents s =
      { s with indent := indent', indents := indents', queue := s.queue ++ ends } := by
  induction indents generalizing s with
  | nil => exact ⟨s.indent, s.indents, [], by rw [List.append_nil]; rfl⟩
  | cons outer rest ih =>
    by_cases hdeep : column < s.indent
    · obtain ⟨indent', indents', ends, heq⟩ := ih (s.close outer rest)
      refine ⟨indent', indents', ⟨.blockEnd, s.cursor.mark, s.cursor.mark⟩ :: ends, ?_⟩
      rw [closeBlocks_cons hdeep, heq]
      simp [close, pushEmpty, push]
    · exact ⟨s.indent, s.indents, [], by
        rw [closeBlocks_eq_self (Int.not_lt.mp hdeep), List.append_nil]⟩

theorem Keyless.closeBlocks (hs : s.Keyless) : (closeBlocks column indents s).Keyless := by
  obtain ⟨indent', indents', ends, heq⟩ := exists_closeBlocks column indents s
  rw [heq]
  exact ⟨hs.blockKey, hs.flowKeys⟩

/-- All blocks that are deeper than the column are closed. -/
theorem indent_closeBlocks_le (h : Nested s.indent indents) (hcolumn : -1 ≤ column) :
    (closeBlocks column indents s).indent ≤ column := by
  induction indents generalizing s with
  | nil =>
    have hindent : s.indent = -1 := h
    rw [Lexer.closeBlocks, hindent]
    exact hcolumn
  | cons outer rest ih =>
    by_cases hdeep : column < s.indent
    · rw [closeBlocks_cons hdeep]
      exact ih h.2
    · rw [closeBlocks_eq_self (Int.not_lt.mp hdeep)]
      exact Int.not_lt.mp hdeep

/-- Whether the ends of blocks wait behind other tokens makes no difference to them. -/
theorem closeBlocks_give (h : s.queue ≠ []) :
    (closeBlocks column indents s).give = closeBlocks column indents s.give := by
  induction indents generalizing s with
  | nil => rfl
  | cons outer rest ih =>
    by_cases hdeep : column < s.indent
    · have hgive : (s.close outer rest).give = s.give.close outer rest := by
        rw [close, close, give, pushEmpty, push, List.tail_append_of_ne_nil h]
        rfl
      rw [closeBlocks_cons hdeep, closeBlocks_cons (s := s.give) hdeep, ← hgive]
      exact ih (List.append_ne_nil_of_right_ne_nil _ (by simp))
    · rw [closeBlocks_eq_self (Int.not_lt.mp hdeep),
        closeBlocks_eq_self (s := s.give) (Int.not_lt.mp hdeep)]

/-! ### The end of the text -/

/-- The line on which the end of the text stands. -/
def atEndLine (s : Lexer) : Lexer :=
  let mark := s.cursor.mark
  { s with cursor.mark := if mark.column = 0 then mark else mark.nextLine 0 }

/-- The end of the text is found. -/
def foundEnd (s : Lexer) : Lexer := { s with keyAllowed := false }.pushEmpty .streamEnd

/-- All blocks are closed, and then the end of the text is found. -/
def finished (s : Lexer) : Lexer := (closeBlocks (-1) s.indents s.atEndLine).foundEnd

theorem foundEnd_give (h : s.queue ≠ []) : s.foundEnd.give = s.give.foundEnd :=
  push_give (s := { s with keyAllowed := false }) h

/-- At the end of the text all blocks are closed. -/
theorem token_end (hs : s.Keyless) (hrest : s.cursor.rest = []) : s.token = .ok s.finished := by
  have hatEnd : s.cursor.atEnd := by
    rw [Cursor.atEnd, hrest]
    rfl
  have hkeyless : s.atEndLine.Keyless := ⟨hs.blockKey, hs.flowKeys⟩
  have hunroll : s.atEndLine.unroll (-1) = closeBlocks (-1) s.indents s.atEndLine := by
    rw [unroll, hkeyless.inFlow]
    rfl
  rw [token]
  simp only [hatEnd, if_true]
  show ((s.atEndLine.unroll (-1)).dropKey >>= fun _ => _) = _
  rw [hunroll, hkeyless.closeBlocks.dropKey]
  rfl

theorem Keyless.finished (hs : s.Keyless) : s.finished.Keyless := by
  have hkeyless : s.atEndLine.Keyless := ⟨hs.blockKey, hs.flowKeys⟩
  have hclosed : (Lexer.closeBlocks (-1) s.indents s.atEndLine).Keyless := hkeyless.closeBlocks
  exact ⟨hclosed.blockKey, hclosed.flowKeys⟩

theorem closeBlocks_ne_nil (h : s.queue ≠ []) : (closeBlocks column indents s).queue ≠ [] := by
  obtain ⟨indent', indents', ends, heq⟩ := exists_closeBlocks column indents s
  rw [heq]
  exact List.append_ne_nil_of_left_ne_nil h ends

theorem finished_give (h : s.queue ≠ []) : s.finished.give = s.give.finished := by
  have hclosed : (closeBlocks (-1) s.indents s.atEndLine).queue ≠ [] :=
    closeBlocks_ne_nil (s := s.atEndLine) h
  rw [finished, foundEnd_give hclosed, closeBlocks_give (s := s.atEndLine) h]
  rfl

/-! ### The end of a mapping -/

/-- Where one state finds a token first and another state finds the tokens after it, the one gives
out the token and goes on like the other. -/
theorem Calm.emits_of_fetch {closed : Lexer} (hs : s.Calm) (hclosed : closed.Calm)
    (hfetch : s.fetch = .ok s') (hgive : closed.fetch = .ok s'.give)
    (hfresh : s'.dropStaleKeys = .ok s') (hheld : s'.isHeld = false)
    (hqueue : s'.queue.head? = some t) (ht : t.kind ≠ .streamEnd) :
    s.Emits [t.kind] 1 closed := by
  obtain ⟨queue, hcons⟩ : ∃ queue, s'.queue = t :: queue := List.head?_eq_some_iff.mp hqueue
  have hnext : { s' with queue, taken := s'.taken + 1 } = s'.give := by
    rw [give, hcons]
    rfl
  intro fuel
  refine ⟨[t], rfl, ?_⟩
  rw [run_fetch hs.dropStaleKeys (.inl hs.queue) hfetch, run_give hfresh hcons hheld ht, hnext,
    run_fetch hclosed.dropStaleKeys (.inl hclosed.queue) hgive]
  rfl

/-- Between two entries, blocks are closed before the next token is found. -/
theorem Calm.fetch_eq (hs : s.Calm) (hindents : s.indents = indents) {keyAllowed : Bool}
    (hpass : passBlanks false (s.cursor.rest.length + 1) s.keyAllowed s.cursor = (keyAllowed, c)) :
    s.fetch = (closeBlocks c.mark.column indents { s with keyAllowed, cursor := c }).token := by
  have hkeyless : Keyless { s with keyAllowed, cursor := c } := ⟨hs.blockKey, hs.flowKeys⟩
  rw [Lexer.fetch_eq hs.flowKeys hpass hkeyless.dropStaleKeys, unroll, hkeyless.inFlow, ← hindents]
  rfl

/-- Behind a waiting token, the next key or the end of the text is found as it would be without
that token. -/
theorem token_give {queue : List Token} (hs : s.Keyless) (hqueue : s.queue = t :: queue)
    (hcs : NextKey s.cursor.rest)
    (hnext : s.cursor.rest ≠ [] → s.keyAllowed = true ∧ s.indent ≤ s.cursor.mark.column) :
    ∃ s', s.token = .ok s' ∧ s.give.token = .ok s'.give ∧ s'.dropStaleKeys = .ok s' ∧
      s'.isHeld = false ∧ s'.queue.head? = some t := by
  have hne : s.queue ≠ [] := by
    rw [hqueue]
    exact List.cons_ne_nil t queue
  have hgive : s.give.Keyless := ⟨hs.blockKey, hs.flowKeys⟩
  obtain hrest | ⟨key, tail, hrest, hends, hsimple, hplain⟩ := hcs
  · refine ⟨s.finished, token_end hs hrest, ?_, hs.finished.dropStaleKeys, hs.finished.isHeld, ?_⟩
    · rw [finished_give hne]
      exact token_end hgive hrest
    · obtain ⟨indent', indents', ends, heq⟩ := exists_closeBlocks (-1) s.indents s.atEndLine
      rw [finished, foundEnd, heq]
      simp [pushEmpty, push, atEndLine, hqueue]
  · obtain ⟨hallowed, hindent⟩ := hnext (by simp [hrest])
    refine ⟨s.foundKey key, token_key hs hallowed hplain hrest hends hindent, ?_,
      dropStaleKeys_foundKey hs.flowKeys hsimple, ?_, ?_⟩
    · rw [foundKey_give hne]
      exact token_key hgive hallowed hplain hrest hends hindent
    · rw [isHeld_foundKey hs.flowKeys, hqueue]
      rfl
    · rw [foundKey, hqueue]
      rfl

/-- At the end of the text, the innermost block can be closed before all others are. -/
theorem finished_close (hqueue : s.queue = []) (hindent : -1 < s.indent)
    (hindents : s.indents = outer :: rest) :
    s.finished.give = (s.close outer rest).give.finished ∧
      s.finished.queue.head? =
        some ⟨.blockEnd, s.atEndLine.cursor.mark, s.atEndLine.cursor.mark⟩ := by
  let closed : Lexer := s.atEndLine.close outer rest
  have hcons : closed.queue = [⟨.blockEnd, s.atEndLine.cursor.mark, s.atEndLine.cursor.mark⟩] := by
    simp only [closed, close, pushEmpty, push, atEndLine, hqueue, List.nil_append]
  have hne : closed.queue ≠ [] := by
    rw [hcons]
    exact List.cons_ne_nil _ _
  have hfinished : s.finished = (closeBlocks (-1) rest closed).foundEnd := by
    rw [finished, hindents, closeBlocks_cons (s := s.atEndLine) hindent]
  constructor
  · have hgive : closed.give = (s.close outer rest).give.atEndLine := by
      simp only [closed, close, pushEmpty, push, atEndLine, give, hqueue, List.nil_append,
        List.tail_cons]
    rw [hfinished, foundEnd_give (closeBlocks_ne_nil hne), closeBlocks_give hne, hgive]
    rfl
  · obtain ⟨indent', indents', ends, heq⟩ := exists_closeBlocks (-1) rest closed
    rw [hfinished, foundEnd, heq]
    simp [pushEmpty, push, hcons]

/-- The end of the innermost mapping is given out, and the lexer is between two entries of the
mapping around it. -/
theorem Between.emits_blockEnd (hs : s.Between indent (outer :: rest) m cs) (hcs : NextKey cs)
    (hm : cs ≠ [] → m < indent) : ∃ s', s.Emits [.blockEnd] 1 s' ∧ s'.Between outer rest m cs := by
  obtain ⟨keyAllowed, c, hpass, hrest, hnext⟩ := hs.exists_passBlanks
  have hnested : outer < indent ∧ Nested outer rest := by
    have hnested := hs.nested
    rwa [hs.indent, hs.indents] at hnested
  let closed : Lexer := { s with indent := outer, indents := rest, taken := s.taken + 1 }
  have hclosed : closed.Between outer rest m cs :=
    { blockKey := hs.blockKey
      flowKeys := hs.flowKeys
      queue := hs.queue
      nested := hnested.2
      indent := rfl
      indents := rfl
      exists_passBlanks := hs.exists_passBlanks }
  refine ⟨closed, ?_, hclosed⟩
  -- the same blanks are passed in both states
  let here : Lexer := { s with keyAllowed, cursor := c }
  have hkeyless : here.Keyless := ⟨hs.blockKey, hs.flowKeys⟩
  have hfetch : s.fetch = (closeBlocks c.mark.column (outer :: rest) here).token :=
    hs.fetch_eq hs.indents hpass
  have hgive : closed.fetch =
      (closeBlocks c.mark.column rest (here.close outer rest).give).token := by
    rw [hclosed.fetch_eq (s := closed) rfl hpass]
    simp only [here, closed, close, pushEmpty, push, give, hs.queue, List.nil_append,
      List.tail_cons]
  have hindent : here.indent = indent := hs.indent
  by_cases hdeep : (c.mark.column : Int) < indent
  · -- the ends are found before what comes next
    let t : Token := ⟨.blockEnd, c.mark, c.mark⟩
    have hqueue : (here.close outer rest).queue = [t] := by
      simp only [here, close, pushEmpty, push, hs.queue, List.nil_append, t]
    have hne : (here.close outer rest).queue ≠ [] := by
      rw [hqueue]
      exact List.cons_ne_nil _ _
    have hkeyless : (here.close outer rest).Keyless := ⟨hs.blockKey, hs.flowKeys⟩
    have hle := indent_closeBlocks_le (s := here.close outer rest) hnested.2
      (show (-1 : Int) ≤ c.mark.column by omega)
    obtain ⟨indent', indents', ends, heq⟩ :=
      exists_closeBlocks c.mark.column rest (here.close outer rest)
    rw [closeBlocks_cons (hindent.symm ▸ hdeep)] at hfetch
    rw [← closeBlocks_give hne] at hgive
    have hall : (Lexer.closeBlocks c.mark.column rest (here.close outer rest)).Keyless :=
      hkeyless.closeBlocks
    rw [heq] at hfetch hgive hle hall
    obtain ⟨s', hs', hs'', hfresh, hheld, hhead⟩ :=
      token_give (t := t) hall (by rw [hqueue]; rfl) (hrest.symm ▸ hcs)
        fun hne => ⟨(hnext (hrest ▸ hne)).1, hle⟩
    exact hs.emits_of_fetch hclosed.toCalm (hfetch.trans hs') (hgive.trans hs'') hfresh hheld hhead
      (by simp [t])
  · -- only the end of the text closes the mapping
    have hnil : cs = [] := by
      by_contra hne
      have hcolumn := (hnext hne).2
      have hlt := hm hne
      omega
    rw [hnil] at hrest
    have hkeyless : here.Keyless := ⟨hs.blockKey, hs.flowKeys⟩
    have hclose : (here.close outer rest).give.Keyless := ⟨hs.blockKey, hs.flowKeys⟩
    have hroot : -1 < here.indent := by
      have hle := hnested.2.neg_one_le
      omega
    obtain ⟨hcloses, hhead⟩ := finished_close (s := here) hs.queue hroot hs.indents
    rw [closeBlocks_eq_self (by omega), token_end hkeyless hrest] at hfetch
    rw [closeBlocks_eq_self (s := (here.close outer rest).give) (show outer ≤ _ by omega),
      token_end hclose hrest, ← hcloses] at hgive
    exact hs.emits_of_fetch hclosed.toCalm hfetch hgive hkeyless.finished.dropStaleKeys
      hkeyless.finished.isHeld hhead (by simp)

/-! ### Keys -/

/-- After a key the colon is found. -/
theorem fetch_foundKey (hs : s.Keyless) (hplain : Style.choose key = .plain)
    (hsimple : isSimpleKey key) (hrest : s.cursor.rest = key.toList ++ ':' :: tail)
    (hends : endsWord tail) (hindent : s.indent ≤ s.cursor.mark.column) :
    (s.foundKey key).fetch = (s.foundKey key).value := by
  have hnext : (s.foundKey key).cursor.rest = ':' :: tail := Cursor.rest_skip_append hrest
  have hcolumn : (s.foundKey key).cursor.mark.column =
      s.cursor.mark.column + key.toList.length := rfl
  have hlength : 0 < key.toList.length := List.length_pos_iff.mpr (allowsPlain_of_choose hplain).1
  have hbegins : BeginsToken (':' :: tail) := by
    rintro _ ⟨⟩
    decide
  have hdeep : (s.foundKey key).indent ≤ ((s.foundKey key).cursor.mark.column : Int) := by
    rw [hcolumn]
    exact Int.le_trans hindent (by omega)
  rw [fetch_eq_token (s := s.foundKey key) hs.flowKeys (hnext ▸ hbegins)
    (dropStaleKeys_foundKey hs.flowKeys hsimple) hdeep]
  exact token_colon hnext hends (by omega)

/-- At the start of a line, the tokens of a key are given out, and before them the start of its
mapping unless that is open already. -/
theorem Between.emits_key (hs : s.Between indent indents n (key.toList ++ ':' :: tail))
    (hplain : Style.choose key = .plain) (hsimple : isSimpleKey key) (hends : endsWord tail)
    (hindent : indent ≤ n) : ∃ k s', k ≤ 6 ∧
      s.Emits (opening indent n ++ [.key, .scalar key.toList .plain, .value]) k s' ∧
      s'.AtValue n tail ∧ s'.indents = opened indent indents n := by
  obtain ⟨keyAllowed, c, hpass, hrest, hnext⟩ := hs.exists_passBlanks
  obtain ⟨rfl, rfl⟩ := hnext (by simp)
  let here : Lexer := { s with keyAllowed := true, cursor := c }
  have hhere : here.Calm := ⟨⟨hs.blockKey, hs.flowKeys⟩, hs.queue, hs.nested⟩
  have hle : here.indent ≤ here.cursor.mark.column := by
    rw [show here.indent = indent from hs.indent]
    exact hindent
  have hfetch : s.fetch = .ok (here.foundKey key) := by
    rw [hs.fetch_eq hs.indents hpass, closeBlocks_eq_self (s := here) hle]
    exact token_key hhere.toKeyless rfl hplain hrest hends hle
  obtain ⟨queue, hvalue, hkinds⟩ := value_foundKey hhere hle
  have hcolon := (fetch_foundKey hhere.toKeyless hplain hsimple hrest hends hle).trans hvalue
  have hheld : (here.foundKey key).isHeld := by
    rw [isHeld_foundKey (s := here) hs.flowKeys, show here.queue = [] from hs.queue]
    rfl
  -- the state behind the colon, in which the tokens of the key wait
  let colon : Lexer := { here with
    cursor := (c.skip key.toList.length).skip 1
    indent := c.mark.column
    indents := opened here.indent here.indents c.mark.column
    keyAllowed := false
    queue }
  have hkeyless : colon.Keyless := ⟨hs.blockKey, hs.flowKeys⟩
  have hend : ∀ t ∈ colon.queue, t.kind ≠ .streamEnd := by
    intro t ht heq
    have hmem : t.kind ∈ queue.map Token.kind := List.mem_map_of_mem ht
    rw [hkinds, heq, opening] at hmem
    split at hmem <;> simp at hmem
  -- the start of the mapping, the key, its scalar and the value
  have hlength : queue.length ≤ 4 := by
    rw [← List.length_map (f := Token.kind), hkinds, opening]
    split <;> simp
  refine ⟨2 + queue.length, { colon with queue := [], taken := colon.taken + colon.queue.length },
    by omega, ?_, ?_, ?_⟩
  · intro fuel
    refine ⟨queue, by rw [hkinds, show here.indent = indent from hs.indent], ?_⟩
    rw [show fuel + 1 + (2 + queue.length) = fuel + 1 + queue.length + 1 + 1 by omega,
      run_fetch hs.dropStaleKeys (.inl hs.queue) hfetch,
      run_fetch (dropStaleKeys_foundKey (s := here) hs.flowKeys hsimple) (.inr hheld) hcolon]
    exact hkeyless.run_queue hend
  · exact
      { blockKey := hs.blockKey
        flowKeys := hs.flowKeys
        queue := rfl
        nested := hs.nested.opened hle
        keyAllowed := rfl
        indent := rfl
        column := by
          show c.mark.column < c.mark.column + key.toList.length + 1
          omega
        rest := by
          show List.drop 1 (List.drop key.toList.length c.rest) = tail
          rw [hrest, List.drop_left]
          rfl }
  · show opened here.indent here.indents c.mark.column = _
    rw [show here.indent = indent from hs.indent, show here.indents = indents from hs.indents]

/-- At the start of a text, no block is open. -/
theorem between_start (hbegins : BeginsToken cs) :
    (start ⟨cs, .origin⟩).Between (-1) [] 0 cs :=
  { blockKey := rfl
    flowKeys := rfl
    queue := rfl
    nested := rfl
    indent := rfl
    indents := rfl
    exists_passBlanks := exists_passBlanks_key rfl hbegins fun _ => ⟨rfl, rfl⟩ }

/-- Outside all blocks, the end of the text is given out, and nothing after it. -/
theorem Between.run_end (hs : s.Between (-1) [] m []) (fuel : Nat) :
    ∃ t : Token, run (fuel + 2) s = [t] ∧ t.kind = .streamEnd := by
  obtain ⟨keyAllowed, c, hpass, hrest, -⟩ := hs.exists_passBlanks
  let here : Lexer := { s with keyAllowed, cursor := c }
  have hkeyless : here.Keyless := ⟨hs.blockKey, hs.flowKeys⟩
  have hfetch : s.fetch = .ok here.finished := by
    rw [hs.fetch_eq hs.indents hpass]
    exact token_end (s := here) hkeyless hrest
  let t : Token := ⟨.streamEnd, here.atEndLine.cursor.mark, here.atEndLine.cursor.mark⟩
  have hqueue : here.finished.queue = [t] := by
    rw [finished, show here.indents = [] from hs.indents]
    show here.queue ++ [t] = [t]
    rw [show here.queue = [] from hs.queue, List.nil_append]
  refine ⟨t, ?_, rfl⟩
  rw [run_fetch hs.dropStaleKeys (.inl hs.queue) hfetch, run_succ]
  simp only [hkeyless.finished.dropStaleKeys, hqueue, hkeyless.finished.isHeld, Bool.false_eq_true,
    if_false]
  exact if_pos rfl

end BoundaryContract.Yaml.Lexer
