import BoundaryContract.Json.Basic
import BoundaryContract.Json.Printer
import BoundaryContract.Value
import BoundaryContract.Yaml.Style

/-!
# YAML text

Documents are written in block style: an entry or item a line, nested ones indented by two, the
items of a sequence under a key at the key's own margin, and empty containers in brackets. A
container that begins after a dash stands on the dash's line; after a colon or a tag it begins on a
line of its own.
-/

namespace BoundaryContract

/-- A document to be written: scalars that are given as text already, strings, containers, and
content under a tag. -/
inductive Yaml
  | plain (text : String)
  | string (s : String)
  | sequence (items : List Yaml)
  | mapping (entries : List (String × Yaml))
  | tagged (tag : String) (content : Yaml)

namespace Yaml

/-! ### Scalars -/

/-- Eight, four or two hexadecimal digits of a code point, in upper case. -/
def codeDigits (width n : Nat) : List Char :=
  (List.range width).reverse.map fun k => (Nat.digitChar (n / Nat.pow 16 k % 16)).toUpper

/-- The one-letter escape of a character, if it has one. -/
def shortEscape? : Char → Option Char
  | '\x00' => some '0'
  | '\x07' => some 'a'
  | '\x08' => some 'b'
  | '\t' => some 't'
  | '\n' => some 'n'
  | '\x0b' => some 'v'
  | '\x0c' => some 'f'
  | '\r' => some 'r'
  | '\x1b' => some 'e'
  | '"' => some '"'
  | '\\' => some '\\'
  | '\x85' => some 'N'
  | '\xa0' => some '_'
  | '\u2028' => some 'L'
  | '\u2029' => some 'P'
  | _ => none

/-- How a character is written between double quotes. -/
def doubleQuotedChar (c : Char) : List Char :=
  if isPrintable c && !isBreak c && c != '"' && c != '\\' then [c]
  else
    match shortEscape? c with
    | some letter => ['\\', letter]
    | none =>
      let n := c.toNat
      if n ≤ 0xff then '\\' :: 'x' :: codeDigits 2 n
      else if n ≤ 0xffff then '\\' :: 'u' :: codeDigits 4 n
      else '\\' :: 'U' :: codeDigits 8 n

/-- Spaces up to a margin. -/
def margin (indent : Nat) : List Char := List.replicate indent ' '

/-- The content of single quotes: a quote is doubled, and a line after breaks is indented. -/
def singleQuotedBody (indent : Nat) : (afterBreak : Bool) → List Char → List Char
  | afterBreak, [] => if afterBreak then margin indent else []
  | afterBreak, c :: cs =>
    if isBreak c then
      c :: singleQuotedBody indent true cs
    else
      (if afterBreak then margin indent else []) ++ (if c == '\'' then ['\'', '\''] else [c]) ++
        singleQuotedBody indent false cs

/-- The lines of a literal block: every line that is not empty is indented. -/
def literalBody (indent : Nat) : (afterBreak : Bool) → List Char → List Char
  | _, [] => []
  | afterBreak, c :: cs =>
    if isBreak c then c :: literalBody indent true cs
    else (if afterBreak then margin indent else []) ++ c :: literalBody indent false cs

/-- The header of a literal block: an indentation mark if the content begins with a blank line or a
space, and how the breaks at the end are kept. -/
def literalHeader (s : List Char) : List Char :=
  let mark := match s with
    | c :: _ => if c == ' ' || isBreak c then ['2'] else []
    | [] => []
  let chomp := match s.reverse with
    | [] => ['-']
    | [c] => if isBreak c then ['+'] else ['-']
    | c :: d :: _ => if !isBreak c then ['-'] else if isBreak d then ['+'] else []
  '|' :: mark ++ chomp

/-- The text of a string inside a margin. -/
def stringChars (indent : Nat) (s : String) : List Char :=
  let content := s.toList
  match Style.choose s with
  | .plain => content
  | .singleQuoted => '\'' :: singleQuotedBody indent false content ++ ['\'']
  | .doubleQuoted => '"' :: content.flatMap doubleQuotedChar ++ ['"']
  | .literal => literalHeader content ++ '\n' :: literalBody indent true content

/-! ### Containers -/

/-- The start of a new line at a margin; the break is there already if the text before ends in one.
-/
def lineStart (before : List Char) (indent : Nat) : List Char :=
  match before.getLast? with
  | some c => if isBreak c then margin indent else '\n' :: margin indent
  | none => margin indent

/-- A tag in front of its content. -/
def tagChars (tag : String) : List Char := '!' :: tag.toList

/-- Whether a key stands before its colon on one line: it has no line breaks and is not too long. -/
def isSimpleKey (key : String) : Bool :=
  !(key.toList.any isBreak) && Text.byteLength key.toList ≤ 128

/-- Where a node begins. -/
inductive Place
  /-- At the start of the text. -/
  | root
  /-- After a dash, or after the mark of a long key or of its value. -/
  | compact
  /-- After the colon of a key. -/
  | value
  /-- After a tag. -/
  | tagged
deriving DecidableEq

/-- The blank before something that stands on the line of what comes before it. -/
def Place.gap : Place → List Char
  | .root => []
  | _ => [' ']

/-- What separates a block container from what comes before it. -/
def Place.opening (indent : Nat) : Place → List Char
  | .root => []
  | .compact => [' ']
  | .value | .tagged => '\n' :: margin indent

/-- The margin of a container in a place inside the margin `indent`, if it is a sequence or not. -/
def Place.margin (isSequence : Bool) (indent : Option Nat) (p : Place) : Nat :=
  match indent with
  | none => 0
  | some n => if isSequence && p == .value then n else n + 2

/-- The margin of a scalar's further lines. -/
def scalarMargin : Option Nat → Nat
  | none => 2
  | some n => n + 2

mutual

/-- The text of a node in a place of a container with the given margin; the outermost node is in
none. -/
def nodeChars (indent : Option Nat) (p : Place) : Yaml → List Char
  | .plain text => p.gap ++ text.toList
  | .string s => p.gap ++ stringChars (scalarMargin indent) s
  | .sequence [] => p.gap ++ ['[', ']']
  | .mapping [] => p.gap ++ ['\x7b', '\x7d']
  | .sequence (item :: rest) =>
    let n := p.margin true indent
    let first := '-' :: nodeChars (some n) .compact item
    p.opening n ++ first ++ itemsChars n first rest
  | .mapping ((key, value) :: rest) =>
    let n := p.margin false indent
    let first := entryChars n key value
    p.opening n ++ first ++ entriesChars n first rest
  | .tagged tag content =>
    p.gap ++ tagChars tag ++ nodeChars indent .tagged content

/-- Further items of a sequence after the text `before`. -/
def itemsChars (indent : Nat) (before : List Char) : List Yaml → List Char
  | [] => []
  | item :: rest =>
    let text := '-' :: nodeChars (some indent) .compact item
    lineStart before indent ++ text ++ itemsChars indent text rest

/-- An entry of a mapping. -/
def entryChars (indent : Nat) (key : String) (value : Yaml) : List Char :=
  if isSimpleKey key then
    stringChars (indent + 2) key ++ ':' :: nodeChars (some indent) .value value
  else
    let first := '?' :: ' ' :: stringChars (indent + 2) key
    first ++ lineStart first indent ++ ':' :: nodeChars (some indent) .compact value

/-- Further entries of a mapping after the text `before`. -/
def entriesChars (indent : Nat) (before : List Char) : List (String × Yaml) → List Char
  | [] => []
  | (key, value) :: rest =>
    let text := entryChars indent key value
    lineStart before indent ++ text ++ entriesChars indent text rest

end

/-- The text of a document; it ends with a line break. -/
def render (doc : Yaml) : String :=
  let text := nodeChars none .root doc
  String.ofList (text ++ lineStart text 0)

/-! ### Documents -/

/-- Doubles are positional from `1e-5` to below `1e16`, and a positive exponent has no sign. -/
def decimalStyle : DecimalStyle := ⟨-5, 15, false⟩

/-- The text of a number. -/
def numberText : JsonNumber → String
  | .int n => String.ofList (Json.intChars n)
  | .float x => String.ofList (decimalStyle.write x)

mutual

/-- A JSON value as a document. -/
def ofJson : Json → Yaml
  | .null => .plain "null"
  | .bool b => .plain (if b then "true" else "false")
  | .number n => .plain (numberText n)
  | .string s => .string s
  | .array items => .sequence (ofItems items)
  | .object entries => .mapping (ofEntries entries)

/-- The items of an array as documents. -/
def ofItems : List Json → List Yaml
  | [] => []
  | item :: rest => ofJson item :: ofItems rest

/-- The entries of an object as documents. -/
def ofEntries : List (String × Json) → List (String × Yaml)
  | [] => []
  | (key, value) :: rest => (key, ofJson value) :: ofEntries rest

end

mutual

/-- A value with its kind as a tag. -/
def ofValue : Value → Yaml
  | .unit => .string "Unit"
  | .int32 n => .tagged "Int32" (.plain (Value.int32Text n))
  | .bool b => .tagged "Bool" (.plain (if b then "true" else "false"))
  | .string s => .tagged "String" (.string s)
  | .struct name fields =>
    .tagged "Struct" (.mapping [("name", .string name), ("fields", .sequence (ofFields fields))])

/-- The fields of a struct as pairs. -/
def ofFields : List (String × Value) → List Yaml
  | [] => []
  | (name, value) :: rest => .sequence [.string name, ofValue value] :: ofFields rest

end

end Yaml

end BoundaryContract
