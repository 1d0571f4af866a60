import BoundaryContract.Number.Binary64

/-!
# Shortest decimal text of a double

Among the decimals that round to a double the shortest is taken, and of several that short the
nearest. The layout of the digits is a separate decision, held in `DecimalStyle`.
-/

namespace BoundaryContract

/-- A positive decimal: `digits` read as a natural number, times `10 ^ exponent`. -/
structure ShortDecimal where
  digits : Nat
  exponent : Int
deriving DecidableEq

namespace ShortDecimal

/-- Whether a point lies in the interval of values that round to a double; its ends count when the
significand is even. -/
private def within (closed : Bool) (lo hi point : Nat) : Bool :=
  if closed then lo ≤ point && point ≤ hi else lo < point && point < hi

/-- The multiple of a unit that rounds to the double, the nearer of the value's two neighbours
first. All quantities are over one denominator. -/
private def onGrid (closed : Bool) (lo value hi unit : Nat) : Option Nat :=
  let below := value / unit
  let gap := value % unit
  let (first, second) :=
    if 2 * gap < unit ∨ (2 * gap = unit ∧ below % 2 = 0) then (below, below + 1)
    else (below + 1, below)
  if within closed lo hi (first * unit) then some first
  else if within closed lo hi (second * unit) then some second
  else none

/-- The search from the coarsest grid to finer ones; a grid of 17 digits always has a hit. -/
private def search (closed : Bool) (num : Nat × Nat × Nat) (den : Nat) :
    (fuel : Nat) → (exponent : Int) → ShortDecimal
  | 0, exponent => ⟨num.2.1 / den, exponent⟩
  | fuel + 1, exponent =>
    let up := match exponent with | .ofNat k => Nat.pow 10 k | .negSucc _ => 1
    let down := match exponent with | .ofNat _ => 1 | .negSucc k => Nat.pow 10 (k + 1)
    match onGrid closed (num.1 * down) (num.2.1 * down) (num.2.2 * down) (den * up) with
    | some digits => ⟨digits, exponent⟩
    | none => search closed num den fuel (exponent - 1)

/-- Removal of trailing zeros of the digits. -/
private def trim : (fuel : Nat) → ShortDecimal → ShortDecimal
  | 0, d => d
  | fuel + 1, d =>
    if d.digits % 10 == 0 && d.digits != 0 then trim fuel ⟨d.digits / 10, d.exponent + 1⟩ else d

/-- The shortest decimal that rounds to a nonzero double. -/
def ofBinary64 (x : Binary64) : ShortDecimal :=
  let m := x.significand
  let atPower := m == Nat.pow 2 52 && 0 < x.exponent
  -- numerators over the denominator `4 * Nat.pow 2 1074`
  let scale := Nat.pow 2 x.exponent
  let value := 4 * m * scale
  let hi := (4 * m + 2) * scale
  let lo := (if atPower then 4 * m - 1 else 4 * m - 2) * scale
  let den := 4 * Nat.pow 2 1074
  let whole := value / den
  let start : Int :=
    if whole == 0 then -(Nat.log2 (den / value) * 30103 / 100000 : Nat)
    else (Nat.toDigits 10 whole).length
  trim 400 (search (m % 2 == 0) (lo, value, hi) den 40 (start + 1))

end ShortDecimal

/-- The layout decisions for the digits of a double. -/
structure DecimalStyle where
  /-- Decimal exponents of the first digit that are written in positional notation. -/
  positionalFrom : Int
  positionalTo : Int
  /-- Whether a positive exponent carries a plus sign. -/
  plusSign : Bool

namespace DecimalStyle

/-- The text of a double: positional within the style's range and with at least one digit on each
side of the point, otherwise scientific. -/
def write (style : DecimalStyle) (x : Binary64) : List Char :=
  let sign := if x.negative then ['-'] else []
  if x.isZero then sign ++ ['0', '.', '0'] else
    let short := ShortDecimal.ofBinary64 x
    let digits := Nat.toDigits 10 short.digits
    let lead := short.exponent + digits.length - 1
    sign ++
      if style.positionalFrom ≤ lead ∧ lead ≤ style.positionalTo then
        if lead < 0 then '0' :: '.' :: (List.replicate (-lead - 1).toNat '0' ++ digits)
        else
          let whole := (lead + 1).toNat
          if digits.length ≤ whole then
            digits ++ List.replicate (whole - digits.length) '0' ++ ['.', '0']
          else digits.take whole ++ '.' :: digits.drop whole
      else
        let mantissa := match digits with
          | [d] => [d]
          | d :: rest => d :: '.' :: rest
          | [] => []
        let exponent := Nat.toDigits 10 lead.natAbs
        let mark := if lead < 0 then ['-'] else if style.plusSign then ['+'] else []
        mantissa ++ 'e' :: mark ++ exponent

end DecimalStyle

end BoundaryContract
