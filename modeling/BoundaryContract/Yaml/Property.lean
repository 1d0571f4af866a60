import BoundaryContract.Yaml.Token

/-!
# Anchors, tags and directives

The properties of a node are an anchor, by which aliases refer to it, and a tag. Directives stand
before a document and give its version and the handles of its tags.
-/

namespace BoundaryContract.Yaml.Property

open Scalar (fault)

/-! ### Anchors and aliases -/

/-- Characters that can follow the name of an anchor directly. -/
def endsAnchor (c : Cursor) : Bool :=
  c.atWordEnd || "?:,]\x7d%@`".toList.contains c.peek

/-- Reads the name of an anchor or an alias after its indicator. -/
def name (activity : Activity) (c : Cursor) : Except Malformation (String × Cursor) :=
  let chars := (c.skip 1).takeWhile isNameChar
  let next := c.skip (1 + chars.length)
  if chars.isEmpty || !endsAnchor next then fault .noAnchorName activity c.mark next
  else .ok (String.ofList chars, next)

/-! ### Addresses -/

/-- Characters of a tag's address; a few more are allowed in a verbatim address. -/
def isAddressChar (verbatim : Bool) (c : Char) : Bool :=
  isNameChar c || ";/?:@&=+$.%!~*'()".toList.contains c ||
    (verbatim && (c == ',' || c == '[' || c == ']'))

/-- The length of a character of which this is the first byte; zero if no character begins so. -/
def byteWidth (octet : Nat) : Nat :=
  if octet < 0x80 then 1
  else if octet / 0x20 = 6 then 2
  else if octet / 0x10 = 14 then 3
  else if octet / 0x08 = 30 then 4
  else 0

/-- A byte given as a percent sign and two hexadecimal digits. -/
def octet? (c : Cursor) : Option Nat :=
  if c.peek == '%' then
    match c.rest with
    | _ :: a :: b :: _ => Scalar.hexNumber? 2 0 [a, b]
    | _ => none
  else none

/-- Further bytes of a character. -/
def octets (activity : Activity) (start : Mark) :
    (count : Nat) → (bytes : TagText) → Cursor → Except Malformation (TagText × Cursor)
  | 0, bytes, c => .ok (bytes, c)
  | count + 1, bytes, c =>
    match octet? c with
    | none => fault .noEscapedOctet activity start c
    | some n =>
      if n / 0x40 = 2 then octets activity start count (bytes ++ [n.toUInt8]) (c.skip 3)
      else fault .badTrailingOctet activity start c

/-- The bytes of a character. -/
def escapedChar (activity : Activity) (start : Mark) (c : Cursor) :
    Except Malformation (TagText × Cursor) :=
  match octet? c with
  | none => fault .noEscapedOctet activity start c
  | some n =>
    match byteWidth n with
    | 0 => fault .badLeadingOctet activity start c
    | more + 1 => octets activity start more [n.toUInt8] (c.skip 3)

/-- Reads on an address after the bytes `bytes`. -/
def addressFrom (verbatim : Bool) (activity : Activity) (start : Mark) :
    (fuel : Nat) → (bytes : TagText) → Cursor → Except Malformation (TagText × Cursor)
  | 0, bytes, c => .ok (bytes, c)
  | fuel + 1, bytes, c =>
    if c.atEnd || !isAddressChar verbatim c.peek then .ok (bytes, c)
    else if c.peek == '%' then do
      let (char, next) ← escapedChar activity start c
      addressFrom verbatim activity start fuel (bytes ++ char) next
    else addressFrom verbatim activity start fuel (bytes ++ [c.peek.toNat.toUInt8]) (c.skip 1)

/-- Reads an address that begins with `head`. It can be empty only if `mayBeEmpty`. -/
def address (verbatim mayBeEmpty : Bool) (activity : Activity) (start : Mark) (head : String)
    (c : Cursor) : Except Malformation (TagText × Cursor) := do
  let (bytes, next) ←
    addressFrom verbatim activity start (c.rest.length + 1) (.ofString head) c
  if !mayBeEmpty && next.mark.index = c.mark.index then fault .noTagAddress activity start next
  else return (bytes, next)

/-! ### Tags -/

/-- The characters of a tag's handle: an exclamation mark, a name, and another mark if it is there.
-/
def handleChars (c : Cursor) : List Char :=
  let name := (c.skip 1).takeWhile isNameChar
  let next := c.skip (1 + name.length)
  '!' :: name ++ if next.peek == '!' then ['!'] else []

/-- Whether the characters are a handle that ends in a mark of its own. -/
def isFullHandle (handle : List Char) : Bool :=
  2 ≤ handle.length && handle.getLast? == some '!'

/-- Checks what follows a tag. -/
def endTag {α : Type} (flow : Bool) (start : Mark) (value : α) (c : Cursor) :
    Except Malformation (α × Cursor) :=
  if c.atWordEnd || (flow && c.peek == ',') then .ok (value, c)
  else fault .noWhitespaceOrBreak .tag start c

/-- Reads a tag from its exclamation mark on: its handle and the rest of it. -/
def tag (flow : Bool) (c : Cursor) : Except Malformation ((String × TagText) × Cursor) := do
  let start := c.mark
  if c.peekAt 1 == '<' then
    let (suffix, next) ← address true false .tagAddress start "" (c.skip 2)
    if next.peek == '>' then endTag flow start ("", suffix) (next.skip 1)
    else fault .noTagClosing .tag start next
  else
    let handle := handleChars c
    let next := c.skip handle.length
    if isFullHandle handle then
      let (suffix, next) ← address false false .tagAddress start "" next
      endTag flow start (String.ofList handle, suffix) next
    else
      let (suffix, next) ←
        address false true .tagAddress start (String.ofList (handle.drop 1)) next
      if suffix.isEmpty then endTag flow start ("", .ofString "!") next
      else endTag flow start ("!", suffix) next

/-! ### Directives -/

/-- A number of a version. -/
def versionNumber (start : Mark) (c : Cursor) : Except Malformation (Nat × Cursor) :=
  let digits := c.takeWhile Char.isDigit
  if digits.isEmpty then fault .noVersion .versionDirective start c
  else if 9 < digits.length then fault .longVersion .versionDirective start (c.skip 9)
  else .ok (digits.foldl (fun n d => n * 10 + (d.toNat - '0'.toNat)) 0, c.skip digits.length)

/-- The version that a directive gives. -/
def version (start : Mark) (c : Cursor) : Except Malformation (TokenKind × Cursor) := do
  let (major, c) ← versionNumber start (c.skipWhile isBlank)
  if c.peek == '.' then
    let (minor, c) ← versionNumber start (c.skip 1)
    return (.versionDirective major minor, c)
  else fault .noVersionSeparator .versionDirective start c

/-- The handle of tags that a directive gives, and what it stands for. -/
def tagHandle (start : Mark) (c : Cursor) : Except Malformation (TokenKind × Cursor) := do
  let c := c.skipWhile isBlank
  if c.peek != '!' then fault .noExclamation .tagDirectiveStart start c
  else
    let handle := handleChars c
    let next := c.skip handle.length
    if handle.length ≠ 1 ∧ !isFullHandle handle then
      fault .noExclamation .tagDirectiveHandle start next
    else if !isBlank next.peek then fault .noWhitespace .tagDirective start next
    else
      let (bytes, next) ←
        address true false .tagDirectiveAddress start "" (next.skipWhile isBlank)
      if next.atWordEnd then return (.tagDirective (String.ofList handle) bytes, next)
      else fault .noWhitespaceOrBreak .tagDirective start next

/-- Reads a directive from its percent sign to the end of its line. -/
def directive (c : Cursor) : Except Malformation (TokenKind × Cursor) := do
  let start := c.mark
  let name := (c.skip 1).takeWhile isNameChar
  let next := c.skip (1 + name.length)
  if name.isEmpty then fault .noDirectiveName .directive start next
  else if !next.atWordEnd then fault .nonAlphabeticDirective .directive start next
  else
    let (kind, next) ←
      if name = "YAML".toList then version start next
      else if name = "TAG".toList then tagHandle start next
      else fault .unknownDirective .directive start next
    let next := (next.skipWhile isBlank).skipComment
    if next.atLineEnd then return (kind, next.nextLine)
    else fault .noLineEnd .directive start next

end BoundaryContract.Yaml.Property
