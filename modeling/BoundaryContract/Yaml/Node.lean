import BoundaryContract.Yaml.Error
import BoundaryContract.Yaml.Token.Lexer

/-!
# Nodes of YAML text

A document is a tree of scalars, sequences and mappings, in which an alias stands for an anchored
node. A text that breaks off still has a tree: the break is a node of its own, where the next node
would have begun. What a reader of the tree meets first, in the order of the text, is then what it
reports.
-/

namespace BoundaryContract.Yaml

/-- What stands before a node: the number of its anchor and its tag, and the mark of its start. -/
structure Properties where
  anchor : Option Nat
  tag : Option TagText
  mark : Mark
deriving DecidableEq

/-- A node of a document. -/
inductive Node
  | scalar (props : Properties) (text : String) (presentation : Presentation)
  | sequence (props : Properties) (items : List Node)
  | mapping (props : Properties) (entries : List (Node × Node))
  /-- The node with an anchor of a number. -/
  | alias (anchor : Nat) (mark : Mark)
  /-- The text breaks off before the node. -/
  | broken (e : ReadError)

/-- An empty scalar without properties. -/
def Node.empty (mark : Mark) : Node := .scalar ⟨none, none, mark⟩ "" .plain

/-! ### Composing nodes from tokens -/

/-- The tokens still to be used, and the names of the anchors met so far with their numbers. -/
structure Composer where
  tokens : List Token
  anchors : List (String × Nat)
  /-- What the handles of tags stand for. -/
  handles : List (String × TagText)

/-- Something read from tokens, and the tokens after it unless they break off. -/
structure Reading (α : Type) where
  value : α
  after : Option Composer

namespace Composer

/-- What is reported where no token is left. -/
def exhausted : ReadError := .malformed ⟨.unexpectedEnd, .origin, none⟩

/-- The next token. -/
def peek (p : Composer) : Except ReadError Token :=
  match p.tokens with
  | t :: _ =>
    match t.kind with
    | .malformed m => .error (.malformed m)
    | _ => .ok t
  | [] => .error exhausted

/-- The tokens after the next one. -/
def skip (p : Composer) : Composer := { p with tokens := p.tokens.drop 1 }

/-- Where the next token begins. -/
def mark (p : Composer) : Mark :=
  match p.tokens with
  | t :: _ => t.start
  | [] => .origin

/-- The number of a new anchor: how many other names are in use. -/
def numberOf (p : Composer) : Nat := p.anchors.length

/-- The anchors with a name given anew to a number. -/
def bind (name : String) (number : Nat) : List (String × Nat) → List (String × Nat)
  | [] => [(name, number)]
  | (n, k) :: rest => if n = name then (n, number) :: rest else (n, k) :: bind name number rest

/-- A break as a node. -/
def brokenNode (e : ReadError) : Reading Node := ⟨.broken e, none⟩

/-- A malformation at the next token. -/
def malformation (p : Composer) (problem : Problem) (activity : Activity) (start : Mark) :
    ReadError :=
  .malformed ⟨problem, p.mark, some (activity, start)⟩

/-- The properties of the next node as they are written: the name of its anchor, its tag, and the
mark of the tag. -/
structure Written where
  anchor : Option String := none
  tag : Option (String × TagText × Mark) := none

/-- An anchor, if one comes next. -/
def readAnchor (p : Composer) (w : Written) : Except ReadError (Written × Composer) := do
  match (← p.peek).kind with
  | .anchor name => return ({ w with anchor := some name }, p.skip)
  | _ => return (w, p)

/-- A tag, if one comes next. -/
def readTag (p : Composer) (w : Written) : Except ReadError (Written × Composer) := do
  let t ← p.peek
  match t.kind with
  | .tag handle suffix => return ({ w with tag := some (handle, suffix, t.start) }, p.skip)
  | _ => return (w, p)

/-- The properties that come next, in either order. -/
def readProperties (p : Composer) : Except ReadError (Written × Composer) := do
  match (← p.peek).kind with
  | .anchor _ =>
    let (w, p) ← p.readAnchor {}
    p.readTag w
  | _ =>
    let (w, p) ← p.readTag {}
    if w.tag.isSome then p.readAnchor w else return (w, p)

/-- The whole tag that a handle and a suffix stand for. -/
def resolveTag (p : Composer) (start : Mark) :
    Option (String × TagText × Mark) → Except ReadError (Option TagText)
  | none => .ok none
  | some ("", suffix, _) => .ok (some suffix)
  | some (handle, suffix, mark) =>
    match p.handles.lookup handle with
    | some address => .ok (some (address ++ suffix))
    | none => .error (.malformed ⟨.undefinedTagHandle, mark, some (.node, start)⟩)

/-- The tag of a scalar: a lone exclamation mark says nothing. -/
def scalarTag (tag : Option TagText) : Option TagText :=
  if tag = some (.ofString "!") then none else tag

/-- The composer after a node with an anchor begins, and the number of the anchor. -/
def enter (p : Composer) (anchor : Option String) : Option Nat × Composer :=
  match anchor with
  | none => (none, p)
  | some name =>
    (some p.numberOf, { p with anchors := bind name p.numberOf p.anchors })

/-- The node that an alias of a name stands for. -/
def aliasNode (p : Composer) (name : String) (mark : Mark) : Reading Node :=
  match p.anchors.lookup name with
  | some number => ⟨.alias number mark, some p.skip⟩
  | none => brokenNode (.unknownAnchor mark)

/-- What stands where a node is due. -/
inductive Content
  | scalar (text : List Char) (presentation : Presentation)
  | flowSequence
  | flowMapping
  | blockSequence
  | blockMapping
  | indentlessSequence
  | missing

/-- What stands where a node is due, by the token there; block collections only where they can
stand, and a sequence at the margin of its mapping only where that is allowed. -/
def Content.of (block indentless : Bool) : TokenKind → Content
  | .scalar text presentation => .scalar text presentation
  | .flowSequenceStart => .flowSequence
  | .flowMappingStart => .flowMapping
  | .blockSequenceStart => if block then .blockSequence else .missing
  | .blockMappingStart => if block then .blockMapping else .missing
  | .blockEntry => if indentless then .indentlessSequence else .missing
  | _ => .missing

/-- An empty node before the next token. -/
def emptyNode (p : Composer) : Reading Node :=
  match p.peek with
  | .error e => brokenNode e
  | .ok t => ⟨.empty t.start, some p⟩

/-- Joins a first part with the parts read after it. -/
def joined {α : Type} (first : α) (r : Reading (List α)) : Reading (List α) :=
  ⟨first :: r.value, r.after⟩

/-- A list that ends in a break. -/
def endInBreak (e : ReadError) : Reading (List Node) := ⟨[.broken e], none⟩

/-- Entries that end in a break. -/
def endEntriesInBreak (e : ReadError) : Reading (List (Node × Node)) :=
  ⟨[(.broken e, .broken e)], none⟩

mutual

/-- The node that comes next. -/
def node (fuel : Nat) (block indentless : Bool) (p : Composer) : Reading Node :=
  match fuel with
  | 0 => brokenNode exhausted
  | fuel + 1 =>
    match p.peek with
    | .error e => brokenNode e
    | .ok t =>
      match t.kind with
      | .alias name => p.aliasNode name t.start
      | _ =>
        match p.readProperties with
        | .error e => brokenNode e
        | .ok (w, p) =>
          match p.peek, p.resolveTag t.start w.tag with
          | .error e, _ | _, .error e => brokenNode e
          | .ok content, .ok tag =>
            let (number, inside) := p.enter w.anchor
            let props : Properties := ⟨number, tag, t.start⟩
            match Content.of block indentless content.kind with
            | .scalar text presentation =>
              ⟨.scalar { props with tag := scalarTag tag } (String.ofList text) presentation,
                some inside.skip⟩
            | .flowSequence =>
              let items := flowItems fuel true content.start inside.skip
              ⟨.sequence props items.value, items.after⟩
            | .flowMapping =>
              let entries := flowEntries fuel true content.start inside.skip
              ⟨.mapping props entries.value, entries.after⟩
            | .blockSequence =>
              let items := blockItems fuel content.start inside.skip
              ⟨.sequence props items.value, items.after⟩
            | .blockMapping =>
              let entries := blockEntries fuel content.start inside.skip
              ⟨.mapping props entries.value, entries.after⟩
            | .indentlessSequence =>
              let items := indentlessItems fuel inside
              ⟨.sequence props items.value, items.after⟩
            | .missing =>
              if w.anchor.isSome || w.tag.isSome then ⟨.scalar props "" .plain, some inside⟩
              else
                brokenNode (p.malformation .noNodeContent (if block then .blockNode else .flowNode)
                  t.start)

/-- The node that comes next, or an empty one if a token of one of the kinds `ends` comes next. -/
def nodeUnless (fuel : Nat) (block indentless : Bool) (ends : List TokenKind) (mark : Mark)
    (p : Composer) : Reading Node :=
  match fuel with
  | 0 => brokenNode exhausted
  | fuel + 1 =>
    match p.peek with
    | .error e => brokenNode e
    | .ok t =>
      if ends.contains t.kind then ⟨.empty mark, some p⟩ else node fuel block indentless p

/-- The items of a block sequence that begins at `start`. -/
def blockItems (fuel : Nat) (start : Mark) (p : Composer) : Reading (List Node) :=
  match fuel with
  | 0 => endInBreak exhausted
  | fuel + 1 =>
    match p.peek with
    | .error e => endInBreak e
    | .ok t =>
      match t.kind with
      | .blockEnd => ⟨[], some p.skip⟩
      | .blockEntry =>
        let item := nodeUnless fuel true false [.blockEntry, .blockEnd] t.stop p.skip
        match item.after with
        | none => ⟨[item.value], none⟩
        | some p => joined item.value (blockItems fuel start p)
      | _ => endInBreak (p.malformation .noDash .blockSequence start)

/-- The items of a sequence at the margin of the mapping around it. -/
def indentlessItems (fuel : Nat) (p : Composer) : Reading (List Node) :=
  match fuel with
  | 0 => endInBreak exhausted
  | fuel + 1 =>
    match p.peek with
    | .error e => endInBreak e
    | .ok t =>
      match t.kind with
      | .blockEntry =>
        let item :=
          nodeUnless fuel true false [.blockEntry, .key, .value, .blockEnd] t.stop p.skip
        match item.after with
        | none => ⟨[item.value], none⟩
        | some p => joined item.value (indentlessItems fuel p)
      | _ => ⟨[], some p⟩

/-- The entries of a block mapping that begins at `start`. -/
def blockEntries (fuel : Nat) (start : Mark) (p : Composer) : Reading (List (Node × Node)) :=
  match fuel with
  | 0 => endEntriesInBreak exhausted
  | fuel + 1 =>
    match p.peek with
    | .error e => endEntriesInBreak e
    | .ok t =>
      match t.kind with
      | .blockEnd => ⟨[], some p.skip⟩
      | .key =>
        let key := nodeUnless fuel true true [.key, .value, .blockEnd] t.stop p.skip
        match key.after with
        | none => ⟨[(key.value, key.value)], none⟩
        | some p =>
          let value := blockValue fuel p
          match value.after with
          | none => ⟨[(key.value, value.value)], none⟩
          | some p => joined (key.value, value.value) (blockEntries fuel start p)
      | _ => endEntriesInBreak (p.malformation .noKey .blockMapping start)

/-- The value of an entry of a block mapping. -/
def blockValue (fuel : Nat) (p : Composer) : Reading Node :=
  match fuel with
  | 0 => brokenNode exhausted
  | fuel + 1 =>
    match p.peek with
    | .error e => brokenNode e
    | .ok t =>
      if t.kind = .value then
        nodeUnless fuel true true [.key, .value, .blockEnd] t.stop p.skip
      else ⟨.empty t.start, some p⟩

/-- The items of a flow sequence that begins at `start`. -/
def flowItems (fuel : Nat) (first : Bool) (start : Mark) (p : Composer) : Reading (List Node) :=
  match fuel with
  | 0 => endInBreak exhausted
  | fuel + 1 =>
    match p.peek with
    | .error e => endInBreak e
    | .ok t =>
      if t.kind = .flowSequenceEnd then ⟨[], some p.skip⟩
      else if !first && t.kind ≠ .flowEntry then
        endInBreak (p.malformation .noCommaOrBracket .flowSequence start)
      else
        let p := if first then p else p.skip
        match p.peek with
        | .error e => endInBreak e
        | .ok t =>
          if t.kind = .flowSequenceEnd then ⟨[], some p.skip⟩
          else
            let item := if t.kind = .key then flowPair fuel t.start p.skip
              else node fuel false false p
            match item.after with
            | none => ⟨[item.value], none⟩
            | some p => joined item.value (flowItems fuel false start p)

/-- A mapping of one entry, as an item of a flow sequence. An empty key takes the token after it
with it. -/
def flowPair (fuel : Nat) (mark : Mark) (p : Composer) : Reading Node :=
  match fuel with
  | 0 => brokenNode exhausted
  | fuel + 1 =>
    let ofEntry (key value : Node) : Node := .mapping ⟨none, none, mark⟩ [(key, value)]
    match p.peek with
    | .error e => ⟨ofEntry (.broken e) (.broken e), none⟩
    | .ok t =>
      let key := if [TokenKind.value, .flowEntry, .flowSequenceEnd].contains t.kind then
          ⟨.empty t.stop, some p.skip⟩
        else node fuel false false p
      match key.after with
      | none => ⟨ofEntry key.value key.value, none⟩
      | some p =>
        let value := flowValue fuel [.flowEntry, .flowSequenceEnd] p
        ⟨ofEntry key.value value.value, value.after⟩

/-- The value of an entry in a flow collection; a token of one of the kinds `ends` ends the entry.
-/
def flowValue (fuel : Nat) (ends : List TokenKind) (p : Composer) : Reading Node :=
  match fuel with
  | 0 => brokenNode exhausted
  | fuel + 1 =>
    match p.peek with
    | .error e => brokenNode e
    | .ok t =>
      if t.kind = .value then nodeUnless fuel false false ends p.skip.mark p.skip
      else ⟨.empty t.start, some p⟩

/-- The entries of a flow mapping that begins at `start`. -/
def flowEntries (fuel : Nat) (first : Bool) (start : Mark) (p : Composer) :
    Reading (List (Node × Node)) :=
  match fuel with
  | 0 => endEntriesInBreak exhausted
  | fuel + 1 =>
    match p.peek with
    | .error e => endEntriesInBreak e
    | .ok t =>
      if t.kind = .flowMappingEnd then ⟨[], some p.skip⟩
      else if !first && t.kind ≠ .flowEntry then
        endEntriesInBreak (p.malformation .noCommaOrBrace .flowMapping start)
      else
        let p := if first then p else p.skip
        match p.peek with
        | .error e => endEntriesInBreak e
        | .ok t =>
          if t.kind = .flowMappingEnd then ⟨[], some p.skip⟩
          else
            let marked := t.kind = .key
            let key := if marked then
                nodeUnless fuel false false [.value, .flowEntry, .flowMappingEnd] p.skip.mark p.skip
              else node fuel false false p
            match key.after with
            | none => ⟨[(key.value, key.value)], none⟩
            | some p =>
              let value := if marked then flowValue fuel [.flowEntry, .flowMappingEnd] p
                else emptyNode p
              match value.after with
              | none => ⟨[(key.value, value.value)], none⟩
              | some p => joined (key.value, value.value) (flowEntries fuel false start p)

end

end Composer

end BoundaryContract.Yaml
