import BoundaryContract.Yaml.Node

/-!
# The documents of a YAML text

A text holds documents, one after another, each with its directives. Only the first one is composed;
of the rest it is told whether there is any.
-/

namespace BoundaryContract.Yaml

/-- What a text holds. -/
structure Stream where
  /-- The first document, if there is one. -/
  root : Option Node
  /-- What is wrong right after the first document. -/
  fault : Option ReadError
  /-- Whether anything follows the first document. -/
  more : Bool

/-- The handles that tags have without being declared. -/
def standardHandles : List (String × TagText) :=
  [("!", .ofString "!"), ("!!", .ofString "tag:yaml.org,2002:")]

namespace Composer

/-- A malformation at a token, while nothing in particular was being read. -/
def misplaced {α : Type} (t : Token) (problem : Problem) : Except ReadError α :=
  .error (.malformed ⟨problem, t.start, none⟩)

/-- The directives that come next; their handles take precedence over the standard ones. -/
def directives : (fuel : Nat) → (versioned : Bool) → Composer → Except ReadError Composer
  | 0, _, p => .ok p
  | fuel + 1, versioned, p => do
    let t ← p.peek
    match t.kind with
    | .versionDirective major minor =>
      if versioned then misplaced t .duplicateVersion
      else if major = 1 ∧ (minor = 1 ∨ minor = 2) then directives fuel true p.skip
      else misplaced t .incompatibleVersion
    | .tagDirective handle address =>
      if (p.handles.lookup handle).isSome then misplaced t .duplicateTagDirective
      else directives fuel versioned { p.skip with handles := p.handles ++ [(handle, address)] }
    | _ => return { p with handles := p.handles ++ standardHandles }

/-- Tokens that leave a document without content. -/
def endsDocument : TokenKind → Bool
  | .versionDirective _ _ | .tagDirective _ _ | .documentStart | .documentEnd | .streamEnd => true
  | _ => false

/-- The root of a document whose start is marked. -/
def markedRoot (fuel : Nat) (p : Composer) : Reading Node :=
  let content : Except ReadError (Token × Composer) := do
    let p ← p.directives fuel false
    let t ← p.peek
    if t.kind = .documentStart then
      let p := p.skip
      return (← p.peek, p)
    else misplaced t .noDocumentStart
  match content with
  | .error e => brokenNode e
  | .ok (t, p) =>
    if endsDocument t.kind then ⟨.empty t.start, some p⟩ else p.node fuel true false

/-- The root of the first document, if there is one. -/
def root (fuel : Nat) (p : Composer) : Option (Reading Node) :=
  match p.peek with
  | .error e => some (brokenNode e)
  | .ok t =>
    match t.kind with
    | .streamEnd => none
    | .versionDirective _ _ | .tagDirective _ _ | .documentStart => some (p.markedRoot fuel)
    | _ => some ({ p with handles := standardHandles }.node fuel true false)

/-- Whether anything but the ends of documents follows. -/
def hasMore (p : Composer) : Bool :=
  match p.tokens.dropWhile (fun t => t.kind = .documentEnd) with
  | t :: _ => t.kind ≠ .streamEnd
  | [] => false

end Composer

namespace Stream

/-- The documents of tokens. -/
def ofTokens (tokens : List Token) : Stream :=
  match (Composer.mk tokens [] []).root (4 * tokens.length + 8) with
  | none => ⟨none, none, false⟩
  | some root =>
    match root.after with
    | none => ⟨some root.value, none, false⟩
    | some p =>
      match p.peek with
      | .error e => ⟨some root.value, some e, false⟩
      | .ok _ => ⟨some root.value, none, p.hasMore⟩

/-- The place in bytes of the first character that a text cannot hold. -/
def forbidden? : (offset : Nat) → List Char → Option Nat
  | _, [] => none
  | offset, c :: cs => if isAllowed c then forbidden? (offset + c.utf8Size) cs else some offset

/-- The text after the byte order mark that it can begin with. -/
def withoutByteOrderMark : List Char → List Char
  | c :: cs => if c = byteOrderMark then cs else c :: cs
  | [] => []

/-- The documents of a text. -/
def ofText (text : String) : Stream :=
  let chars := text.toList
  match forbidden? 0 chars with
  | some offset => ⟨some (.broken (.controlCharacter offset)), none, false⟩
  | none => ofTokens (tokens (withoutByteOrderMark chars))

end Stream

end BoundaryContract.Yaml
