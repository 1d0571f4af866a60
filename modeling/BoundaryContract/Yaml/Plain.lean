import BoundaryContract.Number.Binary64

/-!
# Plain scalars

A scalar without quotes can stand for the empty value, a truth value or a number; any other text
stands for itself. `Plain.resolve` decides which, and so also which strings have to be quoted.
-/

namespace BoundaryContract.Yaml

/-- What a plain scalar stands for. -/
inductive Plain
  | null
  | bool (b : Bool)
  | int (n : Int)
  | float (x : Binary64)
  /-- An infinity or not a number, with its text. -/
  | special (text : String)
  | text

namespace Plain

/-- The value of a digit in a radix up to sixteen. -/
def digit? (radix : Nat) (c : Char) : Option Nat :=
  let value :=
    if c.isDigit then some (c.toNat - '0'.toNat)
    else if 'a' ≤ c ∧ c ≤ 'f' then some (c.toNat - 'a'.toNat + 10)
    else if 'A' ≤ c ∧ c ≤ 'F' then some (c.toNat - 'A'.toNat + 10)
    else none
  value.filter (· < radix)

/-- The number that a nonempty list of digits stands for. -/
def digits? (radix : Nat) : List Char → Option Nat
  | [] => none
  | cs => cs.foldl (fun n c => do return (← n) * radix + (← digit? radix c)) (some 0)

/-- The magnitude of an integer in one of the radix notations. -/
def radixMagnitude? : List Char → Option Nat
  | '0' :: 'x' :: cs => digits? 16 cs
  | '0' :: 'o' :: cs => digits? 8 cs
  | '0' :: 'b' :: cs => digits? 2 cs
  | _ => none

/-- The text after a sign, if there is one. -/
def unsigned : List Char → List Char
  | '+' :: cs => cs
  | '-' :: cs => cs
  | cs => cs

/-- Whether the text is made of several digits of which the first is a zero: such a text is no
number. -/
def isPaddedDigits (s : List Char) : Bool :=
  match unsigned s with
  | '0' :: c :: cs => (c :: cs).all Char.isDigit
  | _ => false

/-- The magnitude of an integer in any notation. -/
def magnitude? (s : List Char) : Option Nat :=
  (radixMagnitude? s).or (if isPaddedDigits s then none else digits? 10 s)

/-- The integer that a text stands for, if it fits in 128 bits, signed or unsigned. -/
def int? (s : List Char) : Option Int :=
  match s with
  | '-' :: cs => do
    let n ← magnitude? cs
    if n ≤ Nat.pow 2 127 then some (-(n : Int)) else none
  | '+' :: cs => do
    let n ← magnitude? cs
    if n < Nat.pow 2 128 then some (n : Int) else none
  | cs => do
    let n ← magnitude? cs
    if n < Nat.pow 2 128 then some (n : Int) else none

/-- The nearest double to `digits * 10 ^ exponent`; `none` if it is beyond the largest one.
Exponents far out of range are settled without computing the power. -/
def decimal? (negative : Bool) (digits : List Char) (exponent : Int) : Option Binary64 := do
  let n ← digits? 10 digits
  if n = 0 then return .zero negative
  let size : Int := (Nat.toDigits 10 n).length + exponent
  if size > 310 then none
  else if size < -330 then return .zero negative
  else
    match exponent with
    | .ofNat k => Binary64.ofQuotient negative (n * Nat.pow 10 k) 1
    | .negSucc k => Binary64.ofQuotient negative n (Nat.pow 10 (k + 1))

/-- The exponent of a decimal: nothing, or a mark, an optional sign and digits. -/
def exponent? : List Char → Option Int
  | [] => some 0
  | c :: cs =>
    if c = 'e' ∨ c = 'E' then
      match cs with
      | '-' :: ds => (digits? 10 ds).map fun n => -(n : Int)
      | ds => (digits? 10 (match ds with | '+' :: ds => ds | ds => ds)).map Int.ofNat
    else none

/-- The double that a decimal text without sign stands for. -/
def unsignedFloat? (negative : Bool) (s : List Char) : Option Binary64 := do
  let whole := s.takeWhile Char.isDigit
  let rest := s.dropWhile Char.isDigit
  let (fraction, rest) := match rest with
    | '.' :: rest => (rest.takeWhile Char.isDigit, rest.dropWhile Char.isDigit)
    | rest => ([], rest)
  let exponent ← exponent? rest
  decimal? negative (whole ++ fraction) (exponent - fraction.length)

/-- The double that a decimal text stands for. -/
def float? : List Char → Option Binary64
  | '-' :: cs => unsignedFloat? true cs
  | '+' :: cs => unsignedFloat? false cs
  | cs => unsignedFloat? false cs

/-- The spellings of the empty value. -/
def nullWords : List String := ["", "null", "Null", "NULL", "~"]

/-- The truth value of a word, if it has one. -/
def bool? : String → Option Bool
  | "true" | "True" | "TRUE" => some true
  | "false" | "False" | "FALSE" => some false
  | _ => none

/-- The spelling of an infinity, or of what is not a number, if the text is one. -/
def special? : String → Option String
  | ".inf" | ".Inf" | ".INF" | "+.inf" | "+.Inf" | "+.INF" => some "inf"
  | "-.inf" | "-.Inf" | "-.INF" => some "-inf"
  | ".nan" | ".NaN" | ".NAN" => some "NaN"
  | _ => none

/-- What a text without quotes stands for. -/
def resolve (s : String) : Plain :=
  if nullWords.contains s then .null
  else
    match bool? s with
    | some b => .bool b
    | none =>
      match int? s.toList with
      | some n => .int n
      | none =>
        if isPaddedDigits s.toList then .text
        else
          match special? s with
          | some word => .special word
          | none =>
            match float? s.toList with
            | some x => .float x
            | none => .text

/-- Whether a string would be taken for something else if it stood without quotes. -/
def isMistakable (s : String) : Bool :=
  match resolve s with
  | .text => isPaddedDigits s.toList
  | _ => true

end Plain

end BoundaryContract.Yaml
