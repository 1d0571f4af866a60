import BoundaryContract.Yaml.Gap

/-!
# Scalars in YAML text

Plain scalars end where something that looks like structure begins; quoted ones end at their quote,
and double quotes allow escapes; block scalars take the lines of a margin, each as it is or folded
into one. Each reader gives the content and the cursor after it.
-/

namespace BoundaryContract.Yaml

/-- How a scalar stands in the text. -/
inductive Presentation
  | plain
  | quoted
  | literal
  | folded
deriving DecidableEq

namespace Scalar

/-- A malformation at a cursor, found while reading what began at `start`. -/
def fault {α : Type} (problem : Problem) (activity : Activity) (start : Mark) (c : Cursor) :
    Except Malformation α :=
  .error ⟨problem, c.mark, some (activity, start)⟩

/-! ### Plain scalars -/

/-- Whether a colon directly before these characters is misplaced in a flow collection. -/
def isColonMisplaced : List Char → Bool
  | c :: _ => isFlowIndicator c || c == '?'
  | [] => false

/-- Whether a word of a plain scalar ends before these characters. -/
def endsPlainWord (flow : Bool) : List Char → Bool
  | [] => true
  | c :: cs => isBlank c || isBreak c || (c == ':' && endsWord cs) || (flow && isFlowIndicator c)

/-- The length of the word at the start, and whether it ends at a misplaced colon. -/
def plainWord (flow : Bool) : List Char → Nat × Bool
  | [] => (0, false)
  | c :: cs =>
    if isBlank c || isBreak c then (0, false)
    else if flow && c == ':' && isColonMisplaced cs then (0, true)
    else if endsPlainWord flow (c :: cs) then (0, false)
    else
      let (n, misplaced) := plainWord flow cs
      (n + 1, misplaced)

/-- What reading a plain scalar gives: its content, whether a line break follows it, and the cursor
after the gap that follows it. -/
structure PlainScan where
  text : List Char
  broken : Bool
  cursor : Cursor

/-- Reads the words of a plain scalar from the gap `g` on, after the content `text`. Lines after the
first have to be indented by `margin` outside flow collections. -/
def plainFrom (flow : Bool) (margin : Nat) (start : Mark) :
    (fuel : Nat) → (text : List Char) → Gap → Cursor → Except Malformation PlainScan
  | 0, text, g, c => .ok ⟨text, g.broken, c⟩
  | fuel + 1, text, g, c =>
    if c.atDocumentMarker || c.peek == '#' then .ok ⟨text, g.broken, c⟩
    else
      let (length, misplaced) := plainWord flow c.rest
      let next := c.skip length
      if misplaced then fault .unexpectedColon .plainScalar start next
      else
        let word := c.rest.take length
        let (text, g) := if word.isEmpty then (text, g) else (text ++ g.text ++ word, Gap.none)
        if next.atBlankOrBreak then
          let (g, after) := Gap.read margin fuel g next
          if isBlank after.peek then fault .tabViolatesIndentation .plainScalar start after
          else if !flow && after.mark.column < margin then .ok ⟨text, g.broken, after⟩
          else plainFrom flow margin start fuel text g after
        else .ok ⟨text, g.broken, next⟩

/-- Reads a plain scalar. -/
def plain (flow : Bool) (margin : Nat) (c : Cursor) : Except Malformation PlainScan :=
  plainFrom flow margin c.mark (c.rest.length + 2) [] Gap.none c

/-! ### Quoted scalars -/

/-- The character that a letter after a backslash stands for. -/
def escaped? : Char → Option Char
  | '0' => some '\x00'
  | 'a' => some '\x07'
  | 'b' => some '\x08'
  | 't' | '\t' => some '\t'
  | 'n' => some '\n'
  | 'v' => some '\x0b'
  | 'f' => some '\x0c'
  | 'r' => some '\r'
  | 'e' => some '\x1b'
  | ' ' => some ' '
  | '"' => some '"'
  | '/' => some '/'
  | '\\' => some '\\'
  | 'N' => some '\x85'
  | '_' => some '\xa0'
  | 'L' => some '\u2028'
  | 'P' => some '\u2029'
  | _ => none

/-- The number of hexadecimal digits after a letter that announces a code point. -/
def codeLength? : Char → Option Nat
  | 'x' => some 2
  | 'u' => some 4
  | 'U' => some 8
  | _ => none

/-- The value of a hexadecimal digit. -/
def hexValue? (c : Char) : Option Nat :=
  if c.isDigit then some (c.toNat - '0'.toNat)
  else if 'a' ≤ c && c ≤ 'f' then some (c.toNat - 'a'.toNat + 10)
  else if 'A' ≤ c && c ≤ 'F' then some (c.toNat - 'A'.toNat + 10)
  else none

/-- The number that exactly `n` hexadecimal digits at the start of a text stand for. -/
def hexNumber? : (n : Nat) → (value : Nat) → List Char → Option Nat
  | 0, value, _ => some value
  | n + 1, value, c :: cs => do hexNumber? n (value * 16 + (← hexValue? c)) cs
  | _ + 1, _, [] => none

/-- The character of a code point, if there is one. -/
def ofCodePoint? (n : Nat) : Option Char :=
  if n.isValidChar then some (Char.ofNat n) else none

/-- The part of a single-quoted scalar up to a blank, a break or the closing quote; a doubled quote
stands for one. -/
def singleRun : (fuel : Nat) → (text : List Char) → Cursor → List Char × Cursor
  | 0, text, c => (text, c)
  | fuel + 1, text, c =>
    match c.rest with
    | '\'' :: '\'' :: _ => singleRun fuel (text ++ ['\'']) (c.skip 2)
    | ch :: _ =>
      if ch == '\'' || isBlank ch || isBreak ch then (text, c)
      else singleRun fuel (text ++ [ch]) (c.skip 1)
    | [] => (text, c)

/-- An escape, from its backslash on, that does not stand for a line break. -/
def escape (start : Mark) (c : Cursor) : Except Malformation (Char × Cursor) :=
  let letter := c.peekAt 1
  match escaped? letter, codeLength? letter with
  | some ch, _ => .ok (ch, c.skip 2)
  | none, none => fault .unknownEscape .quotedEscape start c
  | none, some n =>
    let digits := c.skip 2
    match hexNumber? n 0 digits.rest with
    | none => fault .noHexDigits .quotedEscape start digits
    | some code =>
      match ofCodePoint? code with
      | none => fault .badCodePoint .quotedEscape start digits
      | some ch => .ok (ch, digits.skip n)

/-- The part of a double-quoted scalar up to a blank, a break, an escaped break or the closing
quote. -/
def doubleRun (start : Mark) :
    (fuel : Nat) → (text : List Char) → Cursor → Except Malformation (List Char × Cursor)
  | 0, text, c => .ok (text, c)
  | fuel + 1, text, c =>
    match c.rest with
    | '\\' :: rest =>
      if isBreak (rest.headD '\x00') then .ok (text, c)
      else do
        let (ch, next) ← escape start c
        doubleRun start fuel (text ++ [ch]) next
    | ch :: _ =>
      if ch == '"' || isBlank ch || isBreak ch then .ok (text, c)
      else doubleRun start fuel (text ++ [ch]) (c.skip 1)
    | [] => .ok (text, c)

/-- The part of a quoted scalar up to a gap or the closing quote. -/
def quotedRun (single : Bool) (start : Mark) (fuel : Nat) (text : List Char) (c : Cursor) :
    Except Malformation (List Char × Cursor) :=
  if single then .ok (singleRun fuel text c) else doubleRun start fuel text c

/-- The quote that closes a scalar. -/
def quote (single : Bool) : Char := if single then '\'' else '"'

/-- Reads a quoted scalar on after the content `text`. -/
def quotedFrom (single : Bool) (start : Mark) :
    (fuel : Nat) → (text : List Char) → Cursor → Except Malformation (List Char × Cursor)
  | 0, _, c => fault .unexpectedEnd .quotedScalar start c
  | fuel + 1, text, c =>
    if c.atDocumentMarker then fault .unexpectedDocumentMarker .quotedScalar start c
    else if c.atEnd then fault .unexpectedEnd .quotedScalar start c
    else do
      let (text, c) ← quotedRun single start fuel text c
      if c.peek == quote single then return (text, c.skip 1)
      else
        let (g, c) :=
          if !single && c.peek == '\\' then (Gap.afterEscapedBreak, (c.skip 1).nextLine)
          else (Gap.none, c)
        let (g, c) := Gap.read 0 fuel g c
        quotedFrom single start fuel (text ++ g.text) c

/-- Reads a quoted scalar from its opening quote on. -/
def quoted (single : Bool) (c : Cursor) : Except Malformation (List Char × Cursor) :=
  quotedFrom single c.mark (c.rest.length + 2) [] (c.skip 1)

/-! ### Block scalars -/

/-- How the line breaks at the end of a block scalar are treated. -/
inductive Chomping
  /-- None is kept. -/
  | strip
  /-- The first is kept. -/
  | clip
  /-- All are kept. -/
  | keep
deriving DecidableEq

/-- The chomping that a character asks for. -/
def chomping? : Char → Option Chomping
  | '+' => some .keep
  | '-' => some .strip
  | _ => none

/-- An indentation digit, if one comes next; zero is none. -/
def increment (start : Mark) (c : Cursor) : Except Malformation (Nat × Cursor) :=
  if c.peek == '0' then fault .zeroIndentation .blockScalar start c
  else if c.peek.isDigit then .ok (c.peek.toNat - '0'.toNat, c.skip 1)
  else .ok (0, c)

/-- The chomping mark and the indentation digit of a header, in either order. -/
def header (start : Mark) (c : Cursor) : Except Malformation (Chomping × Nat × Cursor) :=
  match chomping? c.peek with
  | some chomping => do
    let (n, c) ← increment start (c.skip 1)
    return (chomping, n, c)
  | none => do
    let (n, c) ← increment start c
    match if n = 0 then none else chomping? c.peek with
    | some chomping => return (chomping, n, c.skip 1)
    | none => return (.clip, n, c)

/-- The empty lines before a line with content: the breaks after `breaks`, and the deepest column
that was reached. The indentation is `indent`, or still to be found if that is zero. -/
def blankLines (start : Mark) (indent : Nat) :
    (fuel : Nat) → (deepest : Nat) → (breaks : List Char) → Cursor →
      Except Malformation (Nat × List Char × Cursor)
  | 0, deepest, breaks, c => .ok (deepest, breaks, c)
  | fuel + 1, deepest, breaks, c =>
    let spaces := (c.takeWhile (· == ' ')).length
    let c := c.skip (if indent = 0 then spaces else min spaces (indent - c.mark.column))
    let deepest := max deepest c.mark.column
    if (indent = 0 || c.mark.column < indent) && c.peek == '\t' then
      fault .tabInIndentation .blockScalar start c
    else if isBreak c.peek then
      blankLines start indent fuel deepest (breaks ++ c.lineBreak) c.nextLine
    else .ok (deepest, breaks, c)

/-- The lines of a block scalar after the content `text`. `first` is the break after the last line,
`further` those after it, and `spaced` tells whether that line began with a blank. -/
def blockLines (literal : Bool) (start : Mark) (indent : Nat) :
    (fuel : Nat) → (text first further : List Char) → (spaced : Bool) → Cursor →
      Except Malformation (List Char × List Char × List Char × Cursor)
  | 0, text, first, further, _, c => .ok (text, first, further, c)
  | fuel + 1, text, first, further, spaced, c =>
    if c.mark.column = indent && !c.atEnd then do
      let blank := isBlank c.peek
      let joint :=
        if !literal && first == ['\n'] && !spaced && !blank then
          if further.isEmpty then [' '] else []
        else first
      let line := c.takeWhile fun ch => !isBreak ch
      let c := c.skip line.length
      let (_, breaks, next) ← blankLines start indent (c.rest.length + 1) 0 [] c.nextLine
      blockLines literal start indent fuel (text ++ joint ++ further ++ line) c.lineBreak breaks
        blank next
    else .ok (text, first, further, c)

/-- Reads a block scalar from its mark on, inside blocks that are indented by `parent`. -/
def block (literal : Bool) (parent : Int) (c : Cursor) :
    Except Malformation (List Char × Cursor) := do
  let start := c.mark
  let (chomping, n, c) ← header start (c.skip 1)
  let c := (c.skipWhile isBlank).skipComment
  if !c.atLineEnd then fault .noLineEnd .blockScalar start c
  else
    let c := c.nextLine
    let given := if n = 0 then 0 else if 0 ≤ parent then parent.toNat + n else n
    let (deepest, breaks, c) ← blankLines start given (c.rest.length + 1) 0 [] c
    let indent := if given = 0 then max deepest (max (parent + 1).toNat 1) else given
    let (text, first, further, c) ←
      blockLines literal start indent (c.rest.length + 1) [] [] breaks false c
    return (text ++ (if chomping = .strip then [] else first) ++
      (if chomping = .keep then further else []), c)

end Scalar

end BoundaryContract.Yaml
