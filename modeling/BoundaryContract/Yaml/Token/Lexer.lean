import BoundaryContract.Yaml.Property

/-!
# Dividing YAML text into tokens

Indentation opens and closes block collections, and a scalar turns out to be a key only when a colon
follows it on its line. So tokens wait in a queue while the first of them could still be preceded by
the mark of a key. A text that cannot be divided further ends in a token that says why; tokens that
were waiting then are lost.
-/

namespace BoundaryContract.Yaml

/-- A place where a key without a mark could have begun. -/
structure SimpleKey where
  /-- Whether the indentation leaves nothing but a key to begin there. -/
  required : Bool
  /-- The number of the token that would follow the mark of the key. -/
  number : Nat
  mark : Mark
deriving DecidableEq

/-- How far a text is divided. -/
structure Lexer where
  cursor : Cursor
  /-- The column of the innermost block collection, or `-1` outside all of them. -/
  indent : Int
  /-- The columns of the enclosing block collections. -/
  indents : List Int
  /-- The possible key outside flow collections. -/
  blockKey : Option SimpleKey
  /-- The possible keys in flow collections, the innermost first. -/
  flowKeys : List (Option SimpleKey)
  /-- Whether a key without a mark can begin here. -/
  keyAllowed : Bool
  /-- Tokens that are found but not yet given out. -/
  queue : List Token
  /-- How many tokens have been given out. -/
  taken : Nat

namespace Lexer

/-- The start of a text. -/
def start (cursor : Cursor) : Lexer :=
  { cursor, indent := -1, indents := [], blockKey := none, flowKeys := [], keyAllowed := true
    queue := [], taken := 0 }

/-- Whether the cursor is in a flow collection. -/
def inFlow (s : Lexer) : Bool := !s.flowKeys.isEmpty

/-- The column that the content of the innermost block has to reach. -/
def margin (s : Lexer) : Nat := (s.indent + 1).toNat

/-! ### The queue -/

/-- Adds a token at the end of the queue. -/
def push (s : Lexer) (t : Token) : Lexer := { s with queue := s.queue ++ [t] }

/-- Adds a token in front of the token of a number. -/
def insert (s : Lexer) (number : Nat) (t : Token) : Lexer :=
  { s with queue := s.queue.insertIdx (number - s.taken) t }

/-- Adds a token without characters. -/
def pushEmpty (s : Lexer) (kind : TokenKind) : Lexer :=
  s.push ⟨kind, s.cursor.mark, s.cursor.mark⟩

/-- Adds a token that ends at the given cursor, and goes on from there. -/
def pushTo (s : Lexer) (kind : TokenKind) (next : Cursor) : Lexer :=
  { s.push ⟨kind, s.cursor.mark, next.mark⟩ with cursor := next }

/-- Adds a token of some characters of the line. -/
def pushChars (s : Lexer) (kind : TokenKind) (n : Nat) : Lexer :=
  s.pushTo kind (s.cursor.skip n)

/-! ### Keys without a mark -/

/-- The possible key of the innermost collection. -/
def key? (s : Lexer) : Option SimpleKey :=
  match s.flowKeys with
  | key :: _ => key
  | [] => s.blockKey

/-- Changes the possible key of the innermost collection. -/
def setKey (s : Lexer) (key : Option SimpleKey) : Lexer :=
  match s.flowKeys with
  | _ :: outer => { s with flowKeys := key :: outer }
  | [] => { s with blockKey := key }

/-- The malformation of a required key that is no key. -/
def missingColon (s : Lexer) (key : SimpleKey) : Malformation :=
  ⟨.noColon, s.cursor.mark, some (.simpleKey, key.mark)⟩

/-- Gives up the possible key of the innermost collection. -/
def dropKey (s : Lexer) : Except Malformation Lexer :=
  match s.key? with
  | some key => if key.required then .error (s.missingColon key) else .ok (s.setKey none)
  | none => .ok s

/-- Whether a key cannot be one any more: it is on an earlier line, or too far back. -/
def isStale (s : Lexer) (key : SimpleKey) : Bool :=
  key.mark.line < s.cursor.mark.line || key.mark.index + 1024 < s.cursor.mark.index

/-- Gives up one possible key if it is stale. -/
def freshen (s : Lexer) : Option SimpleKey → Except Malformation (Option SimpleKey)
  | some key =>
    if s.isStale key then if key.required then .error (s.missingColon key) else .ok none
    else .ok (some key)
  | none => .ok none

/-- Gives up the possible keys that are stale. -/
def dropStaleKeys (s : Lexer) : Except Malformation Lexer := do
  let blockKey ← s.freshen s.blockKey
  let flowKeys ← s.flowKeys.reverse.mapM s.freshen
  return { s with blockKey, flowKeys := flowKeys.reverse }

/-- Remembers that a key could begin here. -/
def saveKey (s : Lexer) : Except Malformation Lexer :=
  if s.keyAllowed then do
    let required := !s.inFlow && s.indent == (s.cursor.mark.column : Int)
    let key : SimpleKey := ⟨required, s.taken + s.queue.length, s.cursor.mark⟩
    return (← s.dropKey).setKey (some key)
  else .ok s

/-- Whether the next token could still be preceded by the mark of a key. -/
def isHeld (s : Lexer) : Bool :=
  (s.blockKey :: s.flowKeys).any fun key => key.any fun key => key.number == s.taken

/-! ### Indentation -/

/-- Opens a block collection at a column, if that is deeper than the innermost one. The token of its
start stands in front of the token of a number, or at the end. -/
def roll (s : Lexer) (column : Nat) (number : Option Nat) (kind : TokenKind) (mark : Mark) :
    Lexer :=
  if !s.inFlow && s.indent < column then
    let s := { s with indent := column, indents := s.indent :: s.indents }
    match number with
    | some number => s.insert number ⟨kind, mark, mark⟩
    | none => s.push ⟨kind, mark, mark⟩
  else s

/-- Closes the block collections that are deeper than a column. -/
def closeBlocks (column : Int) : List Int → Lexer → Lexer
  | [], s => s
  | outer :: rest, s =>
    if column < s.indent then
      closeBlocks column rest { s.pushEmpty .blockEnd with indent := outer, indents := rest }
    else s

/-- Closes the block collections that are deeper than a column, outside flow collections. -/
def unroll (s : Lexer) (column : Int) : Lexer :=
  if s.inFlow then s else closeBlocks column s.indents s

/-! ### Tokens -/

/-- A malformation here, while nothing in particular was being read. -/
def misplaced {α : Type} (s : Lexer) (problem : Problem) : Except Malformation α :=
  .error ⟨problem, s.cursor.mark, none⟩

/-- The end of the text: everything is closed on a line of its own. -/
def streamEnd (s : Lexer) : Except Malformation Lexer := do
  let mark := s.cursor.mark
  let mark := if mark.column = 0 then mark else mark.nextLine 0
  let s := { s with cursor := { s.cursor with mark } }
  let s ← (s.unroll (-1)).dropKey
  return { s with keyAllowed := false }.pushEmpty .streamEnd

/-- Closes all block collections before something that belongs to no document. -/
def leaveDocument (s : Lexer) : Except Malformation Lexer := do
  return { ← (s.unroll (-1)).dropKey with keyAllowed := false }

/-- A directive. -/
def directive (s : Lexer) : Except Malformation Lexer := do
  let s ← s.leaveDocument
  let (kind, next) ← Property.directive s.cursor
  return s.pushTo kind next

/-- The marker of a document's start or end. -/
def documentMarker (s : Lexer) : Except Malformation Lexer := do
  let s ← s.leaveDocument
  return s.pushChars (if s.cursor.peek == '-' then .documentStart else .documentEnd) 3

/-- The opening bracket of a flow collection. -/
def flowStart (s : Lexer) (kind : TokenKind) : Except Malformation Lexer := do
  let s ← s.saveKey
  return { s with flowKeys := none :: s.flowKeys, keyAllowed := true }.pushChars kind 1

/-- The closing bracket of a flow collection. -/
def flowEnd (s : Lexer) (kind : TokenKind) : Except Malformation Lexer := do
  let s ← s.dropKey
  return { s with flowKeys := s.flowKeys.drop 1, keyAllowed := false }.pushChars kind 1

/-- A comma in a flow collection. -/
def flowEntry (s : Lexer) : Except Malformation Lexer := do
  let s ← s.dropKey
  return { s with keyAllowed := true }.pushChars .flowEntry 1

/-- The dash of a sequence's item. -/
def blockEntry (s : Lexer) : Except Malformation Lexer := do
  if !s.inFlow && !s.keyAllowed then s.misplaced .sequenceEntryNotAllowed
  else
    let mark := s.cursor.mark
    let s ← (s.roll mark.column none .blockSequenceStart mark).dropKey
    return { s with keyAllowed := true }.pushChars .blockEntry 1

/-- The question mark of a mapping's key. -/
def markedKey (s : Lexer) : Except Malformation Lexer := do
  if !s.inFlow && !s.keyAllowed then s.misplaced .mappingKeyNotAllowed
  else
    let mark := s.cursor.mark
    let s ← (s.roll mark.column none .blockMappingStart mark).dropKey
    return { s with keyAllowed := !s.inFlow }.pushChars .key 1

/-- The colon of a mapping's value. If a key could have begun before it, it did. -/
def value (s : Lexer) : Except Malformation Lexer :=
  match s.key? with
  | some key =>
    let s := s.insert key.number ⟨.key, key.mark, key.mark⟩
    let s := s.roll key.mark.column (some key.number) .blockMappingStart key.mark
    .ok ({ s.setKey none with keyAllowed := false }.pushChars .value 1)
  | none =>
    if !s.inFlow && !s.keyAllowed then s.misplaced .mappingValueNotAllowed
    else
      let mark := s.cursor.mark
      let s := s.roll mark.column none .blockMappingStart mark
      .ok ({ s with keyAllowed := !s.inFlow }.pushChars .value 1)

/-- An anchor or an alias. -/
def anchor (s : Lexer) (activity : Activity) (kind : String → TokenKind) :
    Except Malformation Lexer := do
  let s ← s.saveKey
  let (name, next) ← Property.name activity s.cursor
  return { s with keyAllowed := false }.pushTo (kind name) next

/-- A tag. -/
def tag (s : Lexer) : Except Malformation Lexer := do
  let s ← s.saveKey
  let ((handle, suffix), next) ← Property.tag s.inFlow s.cursor
  return { s with keyAllowed := false }.pushTo (.tag handle suffix) next

/-- A block scalar. -/
def blockScalar (s : Lexer) (literal : Bool) : Except Malformation Lexer := do
  let s ← s.dropKey
  let (text, next) ← Scalar.block literal s.indent s.cursor
  return { s with keyAllowed := true }.pushTo
    (.scalar text (if literal then .literal else .folded)) next

/-- A quoted scalar. -/
def quotedScalar (s : Lexer) (single : Bool) : Except Malformation Lexer := do
  let s ← s.saveKey
  let (text, next) ← Scalar.quoted single s.cursor
  return { s with keyAllowed := false }.pushTo (.scalar text .quoted) next

/-- A plain scalar; after a line break a key can begin. -/
def plainScalar (s : Lexer) : Except Malformation Lexer := do
  let s ← s.saveKey
  let scan ← Scalar.plain s.inFlow s.margin s.cursor
  return { s with keyAllowed := scan.broken }.pushTo (.scalar scan.text .plain) scan.cursor

/-- Whether a plain scalar can begin with the next character. -/
def atPlainStart (s : Lexer) : Bool :=
  let c := s.cursor.peek
  if c == '-' then !isBlank (s.cursor.peekAt 1)
  else if c == '?' || c == ':' then !s.inFlow && !(s.cursor.skip 1).atWordEnd
  else !(s.cursor.atWordEnd || ",[]\x7b\x7d#&*!|>'\"%@`".toList.contains c)

/-- The token at the cursor, which is at the start of one. -/
def token (s : Lexer) : Except Malformation Lexer :=
  let c := s.cursor
  let wordEnds := (c.skip 1).atWordEnd
  if c.atEnd then s.streamEnd
  else if c.mark.column == 0 && c.peek == '%' then s.directive
  else if c.atDocumentMarker then s.documentMarker
  else
    match c.peek with
    | '[' => s.flowStart .flowSequenceStart
    | '\x7b' => s.flowStart .flowMappingStart
    | ']' => s.flowEnd .flowSequenceEnd
    | '\x7d' => s.flowEnd .flowMappingEnd
    | ',' => s.flowEntry
    | '*' => s.anchor .alias .alias
    | '&' => s.anchor .anchor .anchor
    | '!' => s.tag
    | '\'' => s.quotedScalar true
    | '"' => s.quotedScalar false
    | ch =>
      if ch == '-' && wordEnds then s.blockEntry
      else if ch == '?' && (s.inFlow || wordEnds) then s.markedKey
      else if ch == ':' && (s.inFlow || wordEnds) then s.value
      else if ch == '|' && !s.inFlow then s.blockScalar true
      else if ch == '>' && !s.inFlow then s.blockScalar false
      else if s.atPlainStart then s.plainScalar
      else .error ⟨.noToken, c.mark, some (.nextToken, c.mark)⟩

/-! ### The run -/

/-- Passes blanks, comments and line breaks. Tabs count as blanks only where no key can begin. -/
def passBlanks (flow : Bool) : (fuel : Nat) → (keyAllowed : Bool) → Cursor → Bool × Cursor
  | 0, keyAllowed, c => (keyAllowed, c)
  | fuel + 1, keyAllowed, c =>
    let c := c.skipByteOrderMark
    let c := c.skipWhile fun ch => ch == ' ' || (ch == '\t' && (flow || !keyAllowed))
    let c := c.skipComment
    if isBreak c.peek then passBlanks flow fuel (keyAllowed || !flow) c.nextLine
    else (keyAllowed, c)

/-- Finds the next token. -/
def fetch (s : Lexer) : Except Malformation Lexer := do
  let (keyAllowed, cursor) :=
    passBlanks s.inFlow (s.cursor.rest.length + 1) s.keyAllowed s.cursor
  let s ← { s with keyAllowed, cursor }.dropStaleKeys
  (s.unroll cursor.mark.column).token

/-- A token that says why a text cannot be divided further. -/
def failed (m : Malformation) : Token := ⟨.malformed m, m.mark, m.mark⟩

/-- Gives out the tokens that are still to come. -/
def run : (fuel : Nat) → Lexer → List Token
  | 0, _ => []
  | fuel + 1, s =>
    match s.dropStaleKeys with
    | .error m => [failed m]
    | .ok s =>
      match s.queue with
      | t :: queue =>
        if s.isHeld then
          match s.fetch with
          | .error m => [failed m]
          | .ok s => run fuel s
        else if t.kind = .streamEnd then [t]
        else t :: run fuel { s with queue, taken := s.taken + 1 }
      | [] =>
        match s.fetch with
        | .error m => [failed m]
        | .ok s => run fuel s

end Lexer

/-- The tokens of a text. -/
def tokens (text : List Char) : List Token :=
  Lexer.run (8 * text.length + 16) (.start ⟨text, .origin⟩)

end BoundaryContract.Yaml
