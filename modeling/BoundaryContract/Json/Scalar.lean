import BoundaryContract.Json.Basic
import BoundaryContract.Json.Error

/-!
# Words, numbers and strings in JSON text

Reading a scalar and passing over it are different things: a string that is only passed over may
hold half a surrogate pair, and a number that is only passed over may be too large. Each scalar
therefore has a lexical form, checked in both cases, and a value, computed when it is read.
-/

namespace BoundaryContract.Json

/-- Blanks between the tokens of a JSON text. -/
def isBlank (c : Char) : Bool :=
  c == ' ' || c == '\n' || c == '\t' || c == '\r'

/-- The text from the first character on that is not a blank. -/
def skipBlanks (s : List Char) : List Char :=
  s.dropWhile isBlank

/-- The faults of one break in a text: the one reported when the value there is read and the one
reported when it is passed over. -/
structure Break where
  reading : Fault
  passing : Fault
deriving DecidableEq

/-- A break that is reported alike in both cases. -/
def Break.ofFault (fault : Fault) : Break := ⟨fault, fault⟩

/-! ### Words -/

/-- The rest of the text after the remaining letters of a word. -/
def readWord : (word s : List Char) → Except Fault (List Char)
  | [], s => .ok s
  | _ :: _, [] => .error (.before .eofInValue [])
  | w :: word, c :: s => if w = c then readWord word s else .error (.next .expectedWord (c :: s))

/-! ### Numbers -/

/-- The written form of a number. -/
structure Numeral where
  negative : Bool
  whole : List Char
  /-- The digits after the point; there is no point when it is empty. -/
  fraction : List Char
  /-- Whether the exponent is negative, and its digits. -/
  exponent : Option (Bool × List Char)
deriving DecidableEq

/-- The text's end where a digit is due. -/
def missingDigit : Break :=
  ⟨.before .eofInValue [], .before .invalidNumber []⟩

/-- The digits before the point: a zero stands alone. -/
def readWhole (s : List Char) : Except Break (List Char × List Char) :=
  match s with
  | [] => .error missingDigit
  | '0' :: rest =>
    match rest with
    | c :: _ =>
      if c.isDigit then .error (.ofFault (.next .invalidNumber rest)) else .ok (['0'], rest)
    | [] => .ok (['0'], rest)
  | c :: _ =>
    if c.isDigit then .ok (s.takeWhile Char.isDigit, s.dropWhile Char.isDigit)
    else .error (.ofFault (.next .invalidNumber s))

/-- The digits after the point, if there is one. -/
def readFraction (s : List Char) : Except Break (List Char × List Char) :=
  match s with
  | '.' :: rest =>
    match rest with
    | [] => .error missingDigit
    | c :: _ =>
      if c.isDigit then .ok (rest.takeWhile Char.isDigit, rest.dropWhile Char.isDigit)
      else .error (.ofFault (.next .invalidNumber rest))
  | _ => .ok ([], s)

/-- The sign in front of an exponent's digits. -/
def readSign : List Char → Bool × List Char
  | '+' :: rest => (false, rest)
  | '-' :: rest => (true, rest)
  | rest => (false, rest)

/-- The exponent, if there is one. -/
def readExponent (s : List Char) : Except Break (Option (Bool × List Char) × List Char) :=
  match s with
  | c :: rest =>
    if c = 'e' ∨ c = 'E' then
      let (negative, digits) := readSign rest
      match digits with
      | [] => .error missingDigit
      | d :: _ =>
        if d.isDigit then
          .ok (some (negative, digits.takeWhile Char.isDigit), digits.dropWhile Char.isDigit)
        else .error (.ofFault (.next .invalidNumber digits))
    else .ok (none, s)
  | [] => .ok (none, s)

/-- The written form of a number, after its sign. -/
def readNumeral (negative : Bool) (s : List Char) : Except Break (Numeral × List Char) := do
  let (whole, s) ← readWhole s
  let (fraction, s) ← readFraction s
  let (exponent, s) ← readExponent s
  return (⟨negative, whole, fraction, exponent⟩, s)

/-- The value of a decimal digit. -/
def digitValue (c : Char) : Nat := c.toNat - '0'.toNat

/-- Appends digits to a number while it stays within the limit; what is left over begins with the
digit that would pass it. -/
def absorb (limit : Nat) : Nat → List Char → Nat × List Char
  | n, [] => (n, [])
  | n, c :: cs =>
    if n * 10 + digitValue c ≤ limit then absorb limit (n * 10 + digitValue c) cs else (n, c :: cs)

/-- The largest unsigned integer of 64 bits. -/
def maxUnsigned : Nat := UInt64.size - 1

/-- The value of an integer without fraction and exponent: one that fits neither 64-bit range, and
the negative zero, is a double. -/
def integerValue (negative : Bool) (n : Nat) : JsonNumber :=
  if negative then
    if 0 < n ∧ n ≤ Nat.pow 2 63 then .int (-(n : Int)) else .float (.ofNat true n)
  else .int n

/-- The value of a number written before `rest`. A significand keeps only the digits that fit in 64
bits, and the decimal exponent makes up for the digits left out before the point. -/
def Numeral.value (n : Numeral) (rest : List Char) : Except Fault JsonNumber :=
  let (whole, dropped) := absorb maxUnsigned 0 n.whole
  if n.fraction.isEmpty && n.exponent.isNone && dropped.isEmpty then
    .ok (integerValue n.negative whole)
  else
    let (significand, unread) := absorb maxUnsigned whole n.fraction
    let scale : Int := dropped.length - (n.fraction.length - unread.length : Nat)
    let finish (exponent : Int) : Except Fault JsonNumber :=
      match Binary64.ofDecimal n.negative significand exponent with
      | some x => .ok (.float x)
      | none => .error (.before .numberOutOfRange rest)
    match n.exponent with
    | none => finish scale
    | some (negative, digits) =>
      match absorb (Nat.pow 2 31 - 1) 0 digits with
      | (_, _ :: left) =>
        if significand ≠ 0 ∧ !negative then .error (.before .numberOutOfRange (left ++ rest))
        else .ok (.float (.zero n.negative))
      | (exponent, []) => finish (if negative then scale - exponent else scale + exponent)

/-! ### Strings -/

/-- The value of a hexadecimal digit in either case. -/
def hexValue? (c : Char) : Option Nat :=
  if c.isDigit then some (c.toNat - '0'.toNat)
  else if 'a' ≤ c ∧ c ≤ 'f' then some (c.toNat - 'a'.toNat + 10)
  else if 'A' ≤ c ∧ c ≤ 'F' then some (c.toNat - 'A'.toNat + 10)
  else none

/-- The value of four hexadecimal digits. -/
def hexFour? (a b c d : Char) : Option Nat := do
  return (((← hexValue? a) * 16 + (← hexValue? b)) * 16 + (← hexValue? c)) * 16 + (← hexValue? d)

/-- The fault of a `\u` whose four bytes are not all hexadecimal digits: the end of the text if
there are fewer, the fourth of them otherwise. -/
def hexFault (s : List Char) : Fault :=
  if Text.byteLength s < 4 then .before .eofInString [] else ⟨.invalidEscape, some ⟨s, 4⟩⟩

/-- The character of a one-letter escape. -/
def simpleEscape? : Char → Option Char
  | '"' => some '"'
  | '\\' => some '\\'
  | '/' => some '/'
  | 'b' => some '\x08'
  | 'f' => some '\x0c'
  | 'n' => some '\n'
  | 'r' => some '\r'
  | 't' => some '\t'
  | _ => none

/-- The first half of a surrogate pair. -/
def isHighSurrogate (n : Nat) : Bool := 0xd800 ≤ n && n ≤ 0xdbff

/-- The second half of a surrogate pair. -/
def isLowSurrogate (n : Nat) : Bool := 0xdc00 ≤ n && n ≤ 0xdfff

/-- The character of a surrogate pair. -/
def pairChar (high low : Nat) : Char :=
  .ofNat ((high - 0xd800) * 0x400 + (low - 0xdc00) + 0x10000)

/-- The fault of a first half that no second half follows. -/
def pairFault : List Char → Fault
  | [] => .before .eofInString []
  | '\\' :: [] => .before .eofInString []
  | '\\' :: 'u' :: s => hexFault s
  | '\\' :: s => .next .brokenSurrogatePair s
  | s => .next .brokenSurrogatePair s

/-- A character in front of what was read after it. -/
def consRead (c : Char) :
    Except Fault (List Char × List Char) → Except Fault (List Char × List Char)
  | .ok (cs, rest) => .ok (c :: cs, rest)
  | .error fault => .error fault

/-- The content of a string from after its opening quote, and the text after its closing one. -/
def readString : List Char → Except Fault (List Char × List Char)
  | [] => .error (.before .eofInString [])
  | '"' :: rest => .ok ([], rest)
  | '\\' :: s =>
    match s with
    | [] => .error (.before .eofInString [])
    | 'u' :: s =>
      match s with
      | a :: b :: c :: d :: rest =>
        match hexFour? a b c d with
        | none => .error (hexFault s)
        | some n =>
          if isLowSurrogate n then .error (.before .loneSurrogate rest)
          else if isHighSurrogate n then
            match rest with
            | '\\' :: 'u' :: a' :: b' :: c' :: d' :: rest' =>
              match hexFour? a' b' c' d' with
              | none => .error (pairFault rest)
              | some n' =>
                if isLowSurrogate n' then consRead (pairChar n n') (readString rest')
                else .error (.before .loneSurrogate rest')
            | rest => .error (pairFault rest)
          else consRead (.ofNat n) (readString rest)
      | s => .error (hexFault s)
    | x :: rest =>
      match simpleEscape? x with
      | some c => consRead c (readString rest)
      | none => .error (.next .invalidEscape (x :: rest))
  | c :: rest =>
    if c.toNat < 0x20 then .error (.next .controlCharacter (c :: rest))
    else consRead c (readString rest)

/-- The text after a string that is passed over, from after its opening quote. -/
def passString : List Char → Except Fault (List Char)
  | [] => .error (.before .eofInString [])
  | '"' :: rest => .ok rest
  | '\\' :: s =>
    match s with
    | [] => .error (.before .eofInString [])
    | 'u' :: s =>
      match s with
      | a :: b :: c :: d :: rest =>
        match hexFour? a b c d with
        | none => .error (hexFault s)
        | some _ => passString rest
      | s => .error (hexFault s)
    | x :: rest =>
      match simpleEscape? x with
      | some _ => passString rest
      | none => .error (.next .invalidEscape (x :: rest))
  | c :: rest =>
    if c.toNat < 0x20 then .error (.before .controlCharacter (c :: rest)) else passString rest

/-- The content of a string read from after its opening quote. -/
def stringContent (s : List Char) : Except Fault String :=
  match readString s with
  | .ok (content, _) => .ok (String.ofList content)
  | .error fault => .error fault

end BoundaryContract.Json
