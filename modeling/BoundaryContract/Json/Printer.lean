import BoundaryContract.Json.Basic
import BoundaryContract.Number.Shortest

/-!
# JSON text

The compact form writes no blank at all; the pretty form puts every item and entry on a line of its
own, indented by two spaces, and keeps empty containers together. Both write the same scalars.
-/

namespace BoundaryContract.Json

/-- Doubles are positional from `1e-5` to below `1e16`, and a positive exponent has a plus sign. -/
def decimalStyle : DecimalStyle := ⟨-5, 15, true⟩

/-- A four-digit hexadecimal escape of a control character. -/
def controlEscape (c : Char) : List Char :=
  ['\\', 'u', '0', '0', Nat.digitChar (c.toNat / 16), Nat.digitChar (c.toNat % 16)]

/-- How one character is written inside a JSON string: only the quote, the backslash and the control
characters below `0x20` are escaped. -/
def escapeChar (c : Char) : List Char :=
  match c with
  | '"' => ['\\', '"']
  | '\\' => ['\\', '\\']
  | '\x08' => ['\\', 'b']
  | '\x0c' => ['\\', 'f']
  | '\n' => ['\\', 'n']
  | '\r' => ['\\', 'r']
  | '\t' => ['\\', 't']
  | c => if c.toNat < 0x20 then controlEscape c else [c]

/-- A JSON string literal. -/
def quoteChars (s : String) : List Char :=
  '"' :: s.toList.flatMap escapeChar ++ ['"']

/-- The decimal text of an integer. -/
def intChars : Int → List Char
  | .ofNat n => Nat.toDigits 10 n
  | .negSucc n => '-' :: Nat.toDigits 10 (n + 1)

/-- The text of a number. -/
def numberChars : JsonNumber → List Char
  | .int n => intChars n
  | .float x => decimalStyle.write x

/-- The text of a truth value. -/
def boolChars : Bool → List Char
  | true => ['t', 'r', 'u', 'e']
  | false => ['f', 'a', 'l', 's', 'e']

mutual

/-- The compact text of a value. -/
def compactChars : Json → List Char
  | .null => ['n', 'u', 'l', 'l']
  | .bool b => boolChars b
  | .number n => numberChars n
  | .string s => quoteChars s
  | .array items => '[' :: compactItems items ++ [']']
  | .object entries => '\x7b' :: compactEntries entries ++ ['\x7d']

/-- The items of an array, separated by commas. -/
def compactItems : List Json → List Char
  | [] => []
  | [item] => compactChars item
  | item :: rest => compactChars item ++ ',' :: compactItems rest

/-- The entries of an object, separated by commas. -/
def compactEntries : List (String × Json) → List Char
  | [] => []
  | [(key, value)] => quoteChars key ++ ':' :: compactChars value
  | (key, value) :: rest =>
    quoteChars key ++ ':' :: compactChars value ++ ',' :: compactEntries rest

end

/-- A line break and the indentation of a nesting depth. -/
def newline (depth : Nat) : List Char :=
  '\n' :: List.replicate (2 * depth) ' '

mutual

/-- The pretty text of a value inside `depth` containers. -/
def prettyChars (depth : Nat) : Json → List Char
  | .null => ['n', 'u', 'l', 'l']
  | .bool b => boolChars b
  | .number n => numberChars n
  | .string s => quoteChars s
  | .array [] => ['[', ']']
  | .array (item :: rest) =>
    '[' :: newline (depth + 1) ++ prettyChars (depth + 1) item ++ prettyItems (depth + 1) rest ++
      newline depth ++ [']']
  | .object [] => ['\x7b', '\x7d']
  | .object ((key, value) :: rest) =>
    '\x7b' :: newline (depth + 1) ++ quoteChars key ++ ':' :: ' ' ::
      prettyChars (depth + 1) value ++ prettyEntries (depth + 1) rest ++ newline depth ++ ['\x7d']

/-- The further items of an array, each after a comma and a line break. -/
def prettyItems (depth : Nat) : List Json → List Char
  | [] => []
  | item :: rest => ',' :: newline depth ++ prettyChars depth item ++ prettyItems depth rest

/-- The further entries of an object, each after a comma and a line break. -/
def prettyEntries (depth : Nat) : List (String × Json) → List Char
  | [] => []
  | (key, value) :: rest =>
    ',' :: newline depth ++ quoteChars key ++ ':' :: ' ' :: prettyChars depth value ++
      prettyEntries depth rest

end

/-- The compact text of a value. -/
def compact (json : Json) : String := String.ofList (compactChars json)

/-- The pretty text of a value. -/
def pretty (json : Json) : String := String.ofList (prettyChars 0 json)

end BoundaryContract.Json
