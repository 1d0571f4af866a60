import BoundaryContract.Proofs.Yaml.Literal
import BoundaryContract.Proofs.Yaml.Plain
import BoundaryContract.Proofs.Yaml.Quoted

/-!
# Dividing outlines into tokens

A run of the lexer gives out tokens one after another; `Emits` says which ones, up to their places,
and in how many steps. Between two entries of a mapping no token waits and no key is open (`Calm`),
and the blanks before the next entry are all that is passed before it (`Ready`). From there the
lexer emits the tokens of a key (`emits_key`), of a value on the key's line (`emits_scalar`), and
the end of a mapping that the next entry is not in (`emits_blockEnd`).
-/

namespace BoundaryContract.Yaml

/-- How a scalar in a style is found in the text. -/
def Style.presentation : Style → Presentation
  | .plain => .plain
  | .singleQuoted | .doubleQuoted => .quoted
  | .literal => .literal

namespace Lexer

variable {s s' s'' : Lexer} {fuel n m : Nat} {kinds kinds' : List TokenKind} {t : Token}
  {w tail cs : List Char} {c c' : Cursor}

/-! ### Runs -/

section

attribute [local irreducible] fetch dropStaleKeys

/-- A step of a run gives out the first token, or fetches another one. -/
theorem run_succ (fuel : Nat) (s : Lexer) : run (fuel + 1) s =
    match s.dropStaleKeys with
    | .error m => [failed m]
    | .ok s =>
      match s.queue with
      | t :: queue =>
        if s.isHeld then
          match s.fetch with
          | .error m => [failed m]
          | .ok s => run fuel s
        else if t.kind = .streamEnd then [t]
        else t :: run fuel { s with queue, taken := s.taken + 1 }
      | [] =>
        match s.fetch with
        | .error m => [failed m]
        | .ok s => run fuel s := rfl

end

/-- From the first state on, tokens of the given kinds are given out, and after so many steps the
run goes on from the second state. -/
def Emits (s : Lexer) (kinds : List TokenKind) (n : Nat) (s' : Lexer) : Prop :=
  ∀ fuel, ∃ ts : List Token, ts.map Token.kind = kinds ∧
    run (fuel + 1 + n) s = ts ++ run (fuel + 1) s'

/-- What is given out one after the other is given out in one go, in as many steps together. -/
theorem Emits.trans (h : s.Emits kinds n s') (h' : s'.Emits kinds' m s'') :
    s.Emits (kinds ++ kinds') (n + m) s'' := by
  intro fuel
  obtain ⟨ts, hts, hrun⟩ := h (fuel + m)
  obtain ⟨ts', hts', hrun'⟩ := h' fuel
  refine ⟨ts ++ ts', by rw [List.map_append, hts, hts'], ?_⟩
  rw [show fuel + 1 + (n + m) = fuel + m + 1 + n by omega, hrun,
    show fuel + m + 1 = fuel + 1 + m by omega, hrun', List.append_assoc]

/-- While the first token is held back, or none is there, another one is fetched. -/
theorem run_fetch (hfresh : s.dropStaleKeys = .ok s) (hwait : s.queue = [] ∨ s.isHeld)
    (hfetch : s.fetch = .ok s') : run (fuel + 1) s = run fuel s' := by
  rw [run_succ]
  simp only [hfresh, hfetch]
  split
  · next hqueue => rw [if_pos (hwait.resolve_left (by simp [hqueue]))]
  · rfl

/-- A token that is not held back is given out. -/
theorem run_give {queue : List Token} (hfresh : s.dropStaleKeys = .ok s)
    (hqueue : s.queue = t :: queue) (hheld : s.isHeld = false) (ht : t.kind ≠ .streamEnd) :
    run (fuel + 1) s = t :: run fuel { s with queue, taken := s.taken + 1 } := by
  rw [run_succ]
  simp only [hfresh, hqueue, hheld, Bool.false_eq_true, if_false, if_neg ht]

/-- No key is open, in a block collection or outside all collections. -/
structure Keyless (s : Lexer) : Prop where
  blockKey : s.blockKey = none
  flowKeys : s.flowKeys = []

/-- The columns of block collections decrease from the innermost one to `-1` outside all of them. -/
def Nested : Int → List Int → Prop
  | indent, [] => indent = -1
  | indent, outer :: rest => outer < indent ∧ Nested outer rest

theorem Nested.neg_one_le {indent : Int} {indents : List Int} (h : Nested indent indents) :
    -1 ≤ indent := by
  induction indents generalizing indent with
  | nil => exact Int.le_of_eq (Eq.symm h)
  | cons outer rest ih => exact Int.le_trans (ih h.2) (Int.le_of_lt h.1)

/-- No key is open and no token is waiting. -/
structure Calm (s : Lexer) : Prop extends s.Keyless where
  queue : s.queue = []
  nested : Nested s.indent s.indents

namespace Keyless

theorem dropStaleKeys (h : s.Keyless) : s.dropStaleKeys = .ok s := by
  obtain ⟨cursor, indent, indents, blockKey, flowKeys, keyAllowed, queue, taken⟩ := s
  obtain ⟨rfl, rfl⟩ := h
  rfl

theorem isHeld (h : s.Keyless) : s.isHeld = false := by
  rw [Lexer.isHeld, h.blockKey, h.flowKeys]
  rfl

theorem inFlow (h : s.Keyless) : s.inFlow = false := by
  rw [Lexer.inFlow, h.flowKeys]
  rfl

theorem key? (h : s.Keyless) : s.key? = none := by
  rw [Lexer.key?, h.flowKeys, h.blockKey]

theorem dropKey (h : s.Keyless) : s.dropKey = .ok s := by
  rw [Lexer.dropKey, h.key?]

/-- Where a key can begin, its place is remembered. -/
theorem saveKey (h : s.Keyless) : s.saveKey = .ok { s with
    blockKey := if s.keyAllowed then
        some ⟨s.indent == (s.cursor.mark.column : Int), s.taken + s.queue.length, s.cursor.mark⟩
      else none } := by
  obtain ⟨cursor, indent, indents, blockKey, flowKeys, keyAllowed, queue, taken⟩ := s
  obtain ⟨rfl, rfl⟩ := h
  cases keyAllowed <;> rfl

/-- Without an open key, all waiting tokens are given out. -/
theorem run_queue (h : s.Keyless) (hend : ∀ t ∈ s.queue, t.kind ≠ .streamEnd) :
    run (fuel + s.queue.length) s =
      s.queue ++ run fuel { s with queue := [], taken := s.taken + s.queue.length } := by
  induction hqueue : s.queue generalizing s with
  | nil =>
    rw [List.nil_append, List.length_nil, Nat.add_zero, Nat.add_zero, ← hqueue]
  | cons t queue ih =>
    obtain ⟨ht, hrest⟩ := List.forall_mem_cons.mp (hqueue ▸ hend)
    rw [List.length_cons, ← Nat.add_assoc, run_give h.dropStaleKeys hqueue h.isHeld ht,
      ih (s := { s with queue, taken := s.taken + 1 }) ⟨h.blockKey, h.flowKeys⟩ hrest rfl,
      List.cons_append]
    simp only [Nat.add_assoc, Nat.add_comm 1]

end Keyless

/-! ### What a token begins with -/

/-- A plain content begins a plain scalar. -/
theorem atPlainStart_of_allowsPlain (hs : s.Keyless) {ch : Char} {cs : List Char}
    (hw : AllowsPlain (ch :: cs)) (hrest : s.cursor.rest = ch :: (cs ++ tail)) :
    s.atPlainStart ∧
      ((ch = '-' ∨ ch = '?' ∨ ch = ':') → (s.cursor.skip 1).atWordEnd = false) := by
  obtain ⟨-, hstart, -, -, -, hchars⟩ := hw.rules
  simp only [Allowance.badStart, Bool.or_eq_false_iff] at hstart
  obtain ⟨hindicator, hmark⟩ := hstart
  have hpeek : s.cursor.peek = ch := Cursor.peek_of_rest hrest
  have hnext : (s.cursor.skip 1).rest = cs ++ tail := by
    rw [Cursor.rest_skip, hrest]
    rfl
  -- each of these marks has something solid after it
  have hword : (ch = '-' ∨ ch = '?' ∨ ch = ':') →
      ∃ d ds, cs = d :: ds ∧ endsWord (d :: ds) = false := by
    intro hch
    have hends : endsWord cs = false := by
      obtain rfl | rfl | rfl := hch <;> simpa using hmark
    cases cs with
    | nil => cases hends
    | cons d ds => exact ⟨d, ds, rfl, hends⟩
  have hafter : (ch = '-' ∨ ch = '?' ∨ ch = ':') → (s.cursor.skip 1).atWordEnd = false := by
    intro hch
    obtain ⟨d, ds, rfl, hends⟩ := hword hch
    rw [Cursor.atWordEnd, hnext, endsWord_append (List.cons_ne_nil d ds), hends]
  refine ⟨?_, hafter⟩
  rw [atPlainStart]
  simp only [hpeek, hs.inFlow]
  split
  · next hdash =>
    rw [beq_iff_eq] at hdash
    obtain ⟨d, ds, rfl, hends⟩ := hword (.inl hdash)
    simp only [endsWord, Bool.or_eq_false_iff] at hends
    rw [Cursor.peekAt, hrest]
    simp [hends.1.1]
  · next hdash =>
    split
    · next hquestion =>
      rw [Bool.or_eq_true, beq_iff_eq, beq_iff_eq] at hquestion
      simp [hafter (.inr hquestion)]
    · have hsolid : isSolid ch := by
        obtain ⟨first, more, heq, hsolid⟩ := hw.words.first
        rwa [(List.cons.inj heq).1]
      have hnull : ch ≠ '\x00' := by
        rintro rfl
        exact absurd (hchars _ List.mem_cons_self).1 (by decide)
      have hends : s.cursor.atWordEnd = false := by
        rw [Cursor.atWordEnd, hrest]
        simp [endsWord, isBlank_of_isSolid hsolid, isBreak_of_isSolid hsolid, hnull]
      rw [hends, Bool.false_or]
      simp [Allowance.startsIndicator] at hindicator ⊢
      simp [hindicator]

/-- The token that a plain content begins is a plain scalar. -/
theorem token_plain (hs : s.Keyless) (hw : AllowsPlain w) (hrest : s.cursor.rest = w ++ tail)
    (hmarker : s.cursor.atDocumentMarker = false) : s.token = s.plainScalar := by
  obtain ⟨ch, cs, rfl⟩ := List.exists_cons_of_ne_nil hw.1
  obtain ⟨-, hstart, -⟩ := hw.rules
  simp only [Allowance.badStart, Bool.or_eq_false_iff] at hstart
  obtain ⟨hindicator, -⟩ := hstart
  rw [List.cons_append] at hrest
  obtain ⟨hplain, hword⟩ := atPlainStart_of_allowsPlain hs hw hrest
  have hpeek : s.cursor.peek = ch := Cursor.peek_of_rest hrest
  have hend : s.cursor.atEnd = false := Cursor.atEnd_of_rest hrest
  have hpercent : ch ≠ '%' := by
    rintro rfl
    cases hindicator
  have hbar : ch ≠ '|' := by
    rintro rfl
    cases hindicator
  have hangle : ch ≠ '>' := by
    rintro rfl
    cases hindicator
  rw [token]
  simp only [hend, hmarker, hpeek, Bool.false_eq_true, if_false, beq_eq_false_iff_ne.mpr hpercent,
    Bool.and_false]
  -- every character that begins a token of its own is an indicator
  split
  all_goals try cases hindicator
  rw [if_neg, if_neg, if_neg, if_neg (by simp [hbar]), if_neg (by simp [hangle]), if_pos hplain]
  all_goals
    simp only [hs.inFlow, Bool.false_or, Bool.and_eq_true, beq_iff_eq, not_and, Bool.not_eq_true]
    intro hch
    exact hword (by simp [hch])

/-- A plain scalar is remembered as a possible key where one can begin. -/
theorem plainScalar_eq (hs : s.Keyless) {broken : Bool}
    (hscan : Scalar.plain false s.margin s.cursor = .ok ⟨w, broken, c⟩) :
    s.plainScalar = .ok ({ s with
      blockKey := if s.keyAllowed then
          some ⟨s.indent == (s.cursor.mark.column : Int), s.taken + s.queue.length, s.cursor.mark⟩
        else none
      keyAllowed := broken }.pushTo (.scalar w .plain) c) := by
  rw [plainScalar, hs.saveKey]
  show (Scalar.plain s.inFlow s.margin s.cursor >>= fun scan => _) = _
  rw [hs.inFlow, hscan]
  rfl

/-- Inside a line there is neither the end of the text nor a directive nor a document marker. -/
private theorem inside_line {ch : Char} (hrest : s.cursor.rest = ch :: cs)
    (hcolumn : 0 < s.cursor.mark.column) :
    s.cursor.peek = ch ∧ s.cursor.atEnd = false ∧ (s.cursor.mark.column == 0) = false ∧
      s.cursor.atDocumentMarker = false :=
  ⟨Cursor.peek_of_rest hrest, Cursor.atEnd_of_rest hrest, beq_false_of_ne hcolumn.ne',
    Cursor.atDocumentMarker_eq_false hcolumn⟩

/-- At the colon after a key, a value begins. -/
theorem token_colon (hrest : s.cursor.rest = ':' :: cs)
    (hends : endsWord cs) (hcolumn : 0 < s.cursor.mark.column) : s.token = s.value := by
  obtain ⟨hpeek, hend, hcolumn', hmarker⟩ := inside_line hrest hcolumn
  have hnext : (s.cursor.skip 1).atWordEnd := by
    rw [Cursor.atWordEnd, Cursor.rest_skip, hrest]
    exact hends
  rw [token]
  simp only [hend, hmarker, hpeek, hcolumn', hnext, Bool.false_eq_true, if_false, Bool.false_and,
    Bool.or_true]
  rfl

/-- A single quote begins a quoted scalar. -/
theorem token_single (hrest : s.cursor.rest = '\'' :: cs) (hcolumn : 0 < s.cursor.mark.column) :
    s.token = s.quotedScalar true := by
  obtain ⟨hpeek, hend, hcolumn', hmarker⟩ := inside_line hrest hcolumn
  rw [token]
  simp only [hend, hmarker, hpeek, hcolumn', Bool.false_eq_true, if_false, Bool.false_and]

/-- A double quote begins a quoted scalar. -/
theorem token_double (hrest : s.cursor.rest = '"' :: cs) (hcolumn : 0 < s.cursor.mark.column) :
    s.token = s.quotedScalar false := by
  obtain ⟨hpeek, hend, hcolumn', hmarker⟩ := inside_line hrest hcolumn
  rw [token]
  simp only [hend, hmarker, hpeek, hcolumn', Bool.false_eq_true, if_false, Bool.false_and]

/-- A bar begins a literal block. -/
theorem token_bar (hs : s.Keyless) (hrest : s.cursor.rest = '|' :: cs)
    (hcolumn : 0 < s.cursor.mark.column) : s.token = s.blockScalar true := by
  obtain ⟨hpeek, hend, hcolumn', hmarker⟩ := inside_line hrest hcolumn
  rw [token]
  simp only [hend, hmarker, hpeek, hcolumn', Bool.false_eq_true, if_false, Bool.false_and,
    hs.inFlow]
  rfl

/-! ### The next token -/

theorem unroll_eq_self {column : Int} (h : s.indent ≤ column) : s.unroll column = s := by
  rw [unroll]
  split
  · rfl
  · cases s.indents with
    | nil => rfl
    | cons outer rest => rw [closeBlocks, if_neg (Int.not_lt.mpr h)]

/-- Past the blanks, deeper blocks are closed, and then the token there is found. -/
theorem fetch_eq {keyAllowed : Bool} (hflow : s.flowKeys = [])
    (hpass : passBlanks false (s.cursor.rest.length + 1) s.keyAllowed s.cursor = (keyAllowed, c))
    (hfresh : { s with keyAllowed, cursor := c }.dropStaleKeys =
      .ok { s with keyAllowed, cursor := c }) :
    s.fetch = ({ s with keyAllowed, cursor := c }.unroll c.mark.column).token := by
  have hflow' : s.inFlow = false := by
    rw [inFlow, hflow]
    rfl
  rw [fetch, hflow', hpass]
  simp only [hfresh, bind, Except.bind]

/-- At the start of a token inside the innermost block, that token is found. -/
theorem fetch_eq_token (hflow : s.flowKeys = []) (hbegins : BeginsToken s.cursor.rest)
    (hfresh : s.dropStaleKeys = .ok s) (hindent : s.indent ≤ s.cursor.mark.column) :
    s.fetch = s.token := by
  have hpass : passBlanks false (s.cursor.rest.length + 1) s.keyAllowed s.cursor =
      (s.keyAllowed, s.cursor) := passBlanks_spaces (k := 0) rfl hbegins
  rw [fetch_eq hflow hpass hfresh]
  show (s.unroll s.cursor.mark.column).token = _
  rw [unroll_eq_self hindent]

/-! ### Values on the line of their key -/

/-- The lexer is behind the colon of a key in the mapping at the column `n`. -/
structure AtValue (s : Lexer) (n : Nat) (cs : List Char) : Prop extends s.Calm where
  keyAllowed : s.keyAllowed = false
  indent : s.indent = n
  column : n < s.cursor.mark.column
  rest : s.cursor.rest = cs

/-- A scalar on the line of its key is given out by itself. -/
theorem AtValue.emits_scalar {text : List Char} {presentation : Presentation} {keyAllowed : Bool}
    (hs : s.AtValue n (' ' :: cs)) (hcs : BeginsToken cs)
    (htoken : { s with cursor := s.cursor.skip 1 }.token =
      .ok ({ s with cursor := s.cursor.skip 1, keyAllowed }.pushTo (.scalar text presentation) c)) :
    s.Emits [.scalar text presentation] 2
      { s with keyAllowed, cursor := c, queue := [], taken := s.taken + 1 } := by
  -- one step fetches the token behind the space, and another one gives it out
  have hpass : passBlanks false (s.cursor.rest.length + 1) s.keyAllowed s.cursor =
      (s.keyAllowed, s.cursor.skip 1) :=
    passBlanks_spaces (k := 1) (by rw [hs.rest]; rfl) hcs
  have hkeyless : Keyless { s with cursor := s.cursor.skip 1 } := ⟨hs.blockKey, hs.flowKeys⟩
  have hfetch : s.fetch = .ok ({ s with cursor := s.cursor.skip 1, keyAllowed }.pushTo
      (.scalar text presentation) c) := by
    have hdeep : s.indent ≤ ((s.cursor.skip 1).mark.column : Int) := by
      have hcolumn := hs.column
      rw [hs.indent, Cursor.column_skip]
      omega
    rw [fetch_eq hs.flowKeys hpass hkeyless.dropStaleKeys,
      unroll_eq_self (s := { s with cursor := s.cursor.skip 1 }) hdeep]
    exact htoken
  let t : Token := ⟨.scalar text presentation, (s.cursor.skip 1).mark, c.mark⟩
  have hfetched : { s with cursor := s.cursor.skip 1, keyAllowed }.pushTo
      (.scalar text presentation) c = { s with keyAllowed, cursor := c, queue := [t] } := by
    rw [pushTo, push, hs.queue]
    rfl
  have hkeyless' : Keyless { s with keyAllowed, cursor := c, queue := [t] } :=
    ⟨hs.blockKey, hs.flowKeys⟩
  intro fuel
  refine ⟨[t], rfl, ?_⟩
  rw [run_fetch hs.dropStaleKeys (.inl hs.queue) hfetch, hfetched,
    run_give hkeyless'.dropStaleKeys rfl hkeyless'.isHeld (by simp [t])]
  rfl

/-- What can come next at the start of a line: a key with its colon, or the end of the text. -/
def NextKey (cs : List Char) : Prop :=
  cs = [] ∨ ∃ (key : String) (rest : List Char), cs = key.toList ++ ':' :: rest ∧ endsWord rest ∧
    isSimpleKey key ∧ Style.choose key = .plain

/-- A plain content begins a token. -/
theorem beginsToken_of_allowsPlain (h : AllowsPlain w) (tail : List Char) :
    BeginsToken (w ++ tail) := by
  obtain ⟨ch, cs, rfl, hsolid⟩ := h.words.first
  obtain ⟨-, hstart, -, -, -, hchars⟩ := h.rules
  rintro _ ⟨⟩
  refine ⟨hsolid, ?_, ?_⟩
  · rintro rfl
    cases hstart
  · rintro rfl
    exact absurd (hchars _ List.mem_cons_self).1 (by decide)

/-- A key begins a token, and so does the end of the text. -/
theorem NextKey.beginsToken (h : NextKey cs) : BeginsToken cs := by
  obtain rfl | ⟨key, rest, rfl, -, -, hplain⟩ := h
  · exact .nil
  · exact beginsToken_of_allowsPlain (allowsPlain_of_choose hplain) _

/-- The lexer is between two entries, in blocks at the given columns: only blanks are passed before
what comes next, which is at the column `m`. -/
structure Between (s : Lexer) (indent : Int) (indents : List Int) (m : Nat) (cs : List Char) : Prop
    extends s.Calm where
  indent : s.indent = indent
  indents : s.indents = indents
  exists_passBlanks : ∃ keyAllowed c,
    passBlanks false (s.cursor.rest.length + 1) s.keyAllowed s.cursor = (keyAllowed, c) ∧
      c.rest = cs ∧ (cs ≠ [] → keyAllowed = true ∧ c.mark.column = m)

/-- Where a scalar has been read up to the next key, nothing has to be passed. -/
theorem exists_passBlanks_key {keyAllowed : Bool} (hrest : c.rest = cs) (hcs : BeginsToken cs)
    (h : cs ≠ [] → keyAllowed = true ∧ c.mark.column = m) : ∃ keyAllowed' c',
      passBlanks false (c.rest.length + 1) keyAllowed c = (keyAllowed', c') ∧ c'.rest = cs ∧
        (cs ≠ [] → keyAllowed' = true ∧ c'.mark.column = m) :=
  ⟨keyAllowed, c, passBlanks_spaces (k := 0) hrest hcs, hrest, h⟩

/-- Where a scalar has been read up to the end of its line, that and the margin are passed. -/
theorem exists_passBlanks_line (keyAllowed : Bool) (hcs : BeginsToken cs)
    (h : c.rest = '\n' :: (List.replicate m ' ' ++ cs) ∨ (c.rest = [] ∧ cs = [])) :
    ∃ keyAllowed' c', passBlanks false (c.rest.length + 1) keyAllowed c = (keyAllowed', c') ∧
      c'.rest = cs ∧ (cs ≠ [] → keyAllowed' = true ∧ c'.mark.column = m) := by
  obtain hrest | ⟨hrest, rfl⟩ := h
  · obtain ⟨c', hpass, hrest', hcolumn⟩ := passBlanks_line
      (List.replicate m ' ' ++ cs).length hrest hcs
    refine ⟨true, c', ?_, hrest', fun _ => ⟨rfl, hcolumn⟩⟩
    rw [hrest, List.length_cons]
    exact hpass
  · exact exists_passBlanks_key hrest hcs fun hne => absurd rfl hne

namespace AtValue

variable {text : String}

/-- After a scalar on the line of its key, the enclosing blocks are still open. -/
theorem between (hs : s.AtValue n (' ' :: w)) {keyAllowed : Bool} {taken : Nat}
    (hpass : ∃ keyAllowed' c',
      passBlanks false (c.rest.length + 1) keyAllowed c = (keyAllowed', c') ∧ c'.rest = cs ∧
        (cs ≠ [] → keyAllowed' = true ∧ c'.mark.column = m)) :
    { s with keyAllowed, cursor := c, queue := [], taken }.Between s.indent s.indents m cs :=
  { blockKey := hs.blockKey
    flowKeys := hs.flowKeys
    queue := rfl
    nested := hs.nested
    indent := rfl
    indents := rfl
    exists_passBlanks := hpass }

/-- A plain scalar on the line of its key. -/
theorem emits_plain (hs : s.AtValue n (' ' :: (w ++ tail))) (hw : AllowsPlain w)
    (htail : Follows w tail m cs) (hcs : NextKey cs) (hm : m ≤ n) :
    ∃ s', s.Emits [.scalar w .plain] 2 s' ∧ s'.Between s.indent s.indents m cs := by
  have hcolumn := hs.column
  have hrest : (s.cursor.skip 1).rest = w ++ tail := by
    rw [Cursor.rest_skip, hs.rest]
    rfl
  have hmarker : (s.cursor.skip 1).atDocumentMarker = false :=
    Cursor.atDocumentMarker_eq_false (by rw [Cursor.column_skip]; omega)
  have hkeyless : Keyless { s with cursor := s.cursor.skip 1 } := ⟨hs.blockKey, hs.flowKeys⟩
  have hmargin : s.margin = n + 1 := by
    rw [margin, hs.indent]
    omega
  obtain ⟨last, hlast⟩ : ∃ last, w.getLast? = some last :=
    ⟨_, List.getLast?_eq_some_getLast hw.1⟩
  have hunbroken : isBreak last = false := (hw.words.unbroken last (List.mem_of_getLast? hlast)).1
  -- the scalar ends with its line or with the text
  have hscan : ∃ broken c', Scalar.plain false (n + 1) (s.cursor.skip 1) = .ok ⟨w, broken, c'⟩ ∧
      c'.rest = cs ∧ (cs ≠ [] → broken = true ∧ c'.mark.column = m) := by
    obtain rfl | ⟨rfl, rfl⟩ := htail.line hlast hunbroken
    · obtain ⟨c', hscan, hrest', hcolumn'⟩ := Scalar.plain_line hw hrest hcs.beginsToken.solid
        (by omega : m < n + 1) (by rw [Cursor.column_skip]; omega) hmarker
      exact ⟨true, c', hscan, hrest', fun _ => ⟨rfl, hcolumn'⟩⟩
    · refine ⟨false, _,
        Scalar.plain_at hw hrest rfl .nil (by rw [Cursor.column_skip]; omega) hmarker,
        ?_, fun hne => absurd rfl hne⟩
      rw [Cursor.rest_skip_append hrest]
  obtain ⟨broken, c', hscan, hrest', hnext⟩ := hscan
  have htoken : { s with cursor := s.cursor.skip 1 }.token =
      .ok ({ s with cursor := s.cursor.skip 1, keyAllowed := broken }.pushTo
        (.scalar w .plain) c') := by
    rw [token_plain hkeyless hw hrest hmarker, plainScalar_eq hkeyless (hmargin.symm ▸ hscan)]
    simp only [hs.keyAllowed, hs.blockKey, Bool.false_eq_true, if_false]
  exact ⟨_, hs.emits_scalar (beginsToken_of_allowsPlain hw tail) htoken,
    hs.between (exists_passBlanks_key hrest' hcs.beginsToken hnext)⟩

/-- A quoted scalar on the line of its key. -/
theorem emits_quoted {single : Bool} (hs : s.AtValue n (' ' :: (w ++ tail)))
    (hw : w.head? = some (Scalar.quote single)) (hlast : w.getLast? = some (Scalar.quote single))
    (hread : Scalar.quoted single (s.cursor.skip 1) = .ok (text.toList, c)) (hrest : c.rest = tail)
    (htail : Follows w tail m cs) (hcs : NextKey cs) :
    ∃ s', s.Emits [.scalar text.toList .quoted] 2 s' ∧ s'.Between s.indent s.indents m cs := by
  have hcolumn : 0 < (s.cursor.skip 1).mark.column := by
    rw [Cursor.column_skip]
    omega
  obtain ⟨rest, rfl⟩ : ∃ rest, w = Scalar.quote single :: rest := by
    cases w with
    | nil => cases hw
    | cons ch rest => exact ⟨rest, by rw [Option.some.inj hw]⟩
  have hnext : (s.cursor.skip 1).rest = Scalar.quote single :: (rest ++ tail) := by
    rw [Cursor.rest_skip, hs.rest]
    rfl
  have hbegins : BeginsToken (Scalar.quote single :: rest ++ tail) := by
    rintro _ ⟨⟩
    cases single <;> decide
  have htoken : { s with cursor := s.cursor.skip 1 }.token =
      .ok ({ s with cursor := s.cursor.skip 1, keyAllowed := false }.pushTo
        (.scalar text.toList .quoted) c) := by
    have hquote : { s with cursor := s.cursor.skip 1 }.token =
        { s with cursor := s.cursor.skip 1 }.quotedScalar single := by
      cases single with
      | true => exact token_single hnext hcolumn
      | false => exact token_double hnext hcolumn
    have hkeyless : Keyless { s with cursor := s.cursor.skip 1 } := ⟨hs.blockKey, hs.flowKeys⟩
    rw [hquote, quotedScalar, hkeyless.saveKey]
    simp only [hs.keyAllowed, hs.blockKey, Bool.false_eq_true, if_false, bind, Except.bind, hread]
    rfl
  have hline : c.rest = '\n' :: (List.replicate m ' ' ++ cs) ∨ (c.rest = [] ∧ cs = []) := by
    rw [hrest]
    exact htail.line hlast (by cases single <;> decide)
  exact ⟨_, hs.emits_scalar hbegins htoken,
    hs.between (exists_passBlanks_line false hcs.beginsToken hline)⟩

/-- A literal block under its key. -/
theorem emits_literal (hs : s.AtValue n (' ' :: (stringChars (n + 2) text ++ tail)))
    (hstyle : Style.choose text = .literal) (htail : Follows (stringChars (n + 2) text) tail m cs)
    (hcs : NextKey cs) (hm : m ≤ n) :
    ∃ s', s.Emits [.scalar text.toList .literal] 2 s' ∧ s'.Between s.indent s.indents m cs := by
  have hrest : (s.cursor.skip 1).rest = stringChars (n + 2) text ++ tail := by
    rw [Cursor.rest_skip, hs.rest]
    rfl
  have hkeyless : Keyless { s with cursor := s.cursor.skip 1 } := ⟨hs.blockKey, hs.flowKeys⟩
  obtain ⟨hpeek, c', hread, hrest', hcolumn⟩ :=
    block_of_choose hstyle hrest htail hcs.beginsToken.solid (by omega)
  obtain ⟨rest, hbar⟩ : ∃ rest, stringChars (n + 2) text ++ tail = '|' :: rest := by
    rw [Cursor.peek, hrest] at hpeek
    cases hchars : stringChars (n + 2) text ++ tail with
    | nil =>
      rw [hchars] at hpeek
      cases hpeek
    | cons ch rest =>
      rw [hchars, List.headD_cons] at hpeek
      exact ⟨rest, by rw [hpeek]⟩
  have hbegins : BeginsToken (stringChars (n + 2) text ++ tail) := by
    rw [hbar]
    rintro _ ⟨⟩
    decide
  have htoken : { s with cursor := s.cursor.skip 1 }.token =
      .ok ({ s with cursor := s.cursor.skip 1, keyAllowed := true }.pushTo
        (.scalar text.toList .literal) c') := by
    rw [token_bar hkeyless (hrest.trans hbar) (by rw [Cursor.column_skip]; omega), blockScalar,
      hkeyless.dropKey]
    simp only [bind, Except.bind, hs.indent, hread]
    rfl
  exact ⟨_, hs.emits_scalar hbegins htoken,
    hs.between (exists_passBlanks_key hrest' hcs.beginsToken fun hne => ⟨rfl, hcolumn hne⟩)⟩

/-- A string on the line of its key. -/
theorem emits_string (hs : s.AtValue n (' ' :: (stringChars (n + 2) text ++ tail)))
    (htail : Follows (stringChars (n + 2) text) tail m cs) (hcs : NextKey cs) (hm : m ≤ n) :
    ∃ s', s.Emits [.scalar text.toList (Style.choose text).presentation] 2 s' ∧
      s'.Between s.indent s.indents m cs := by
  have hrest : (s.cursor.skip 1).rest = stringChars (n + 2) text ++ tail := by
    rw [Cursor.rest_skip, hs.rest]
    rfl
  cases hstyle : Style.choose text with
  | plain =>
    rw [stringChars_of_plain hstyle] at hs htail
    exact hs.emits_plain (allowsPlain_of_choose hstyle) htail hcs hm
  | singleQuoted =>
    have hchars : stringChars (n + 2) text =
        '\'' :: singleQuotedBody (n + 2) false text.toList ++ ['\''] := by
      simp only [stringChars, hstyle]
    have hlast : (stringChars (n + 2) text).getLast? = some (Scalar.quote true) := by
      rw [hchars, List.getLast?_concat]
      rfl
    -- the closing quote is not taken for a doubled one
    have hquote : tail.head? ≠ some '\'' := by
      obtain rfl | ⟨rfl, -⟩ := htail.line hlast (by decide)
      · simp
      · simp
    obtain ⟨-, c', hread, hrest'⟩ := quoted_single hstyle (by omega) hrest hquote
    exact hs.emits_quoted (by rw [hchars]; rfl) hlast hread hrest' htail hcs
  | doubleQuoted =>
    have hchars : stringChars (n + 2) text =
        '"' :: text.toList.flatMap doubleQuotedChar ++ ['"'] := by
      simp only [stringChars, hstyle]
    have hlast : (stringChars (n + 2) text).getLast? = some (Scalar.quote false) := by
      rw [hchars, List.getLast?_concat]
      rfl
    obtain ⟨-, c', hread, hrest'⟩ := quoted_double hstyle hrest
    exact hs.emits_quoted (by rw [hchars]; rfl) hlast hread hrest' htail hcs
  | literal => exact hs.emits_literal hstyle htail hcs hm

end AtValue

end Lexer

end BoundaryContract.Yaml
