/-!
# Double-precision numbers in exact arithmetic

A finite double is a sign and a magnitude `significand * 2 ^ exponent / 2 ^ 1074` with a significand
below `2 ^ 53`. Rounding takes an exact quotient of natural numbers to the nearest such magnitude,
a tie going to the even significand, so every operation here is one exact computation and one
rounding.
-/

namespace BoundaryContract

/-- A finite double: its magnitude is `significand * 2 ^ exponent / 2 ^ 1074`. -/
structure Binary64 where
  negative : Bool
  significand : Nat
  exponent : Nat
deriving DecidableEq

namespace Binary64

/-- Zero with a sign. -/
def zero (negative : Bool) : Binary64 := ⟨negative, 0, 0⟩

/-- Whether the magnitude is zero. -/
def isZero (x : Binary64) : Bool := x.significand == 0

/-- The nearest natural number to `num / den`, a tie going to the even one. -/
def roundDiv (num den : Nat) : Nat :=
  let q := num / den
  let r := num % den
  if 2 * r < den then q
  else if den < 2 * r then q + 1
  else if q % 2 == 0 then q else q + 1

/-- The magnitude nearest to `num / den`, or `none` when that is beyond the largest double. -/
def ofQuotient (negative : Bool) (num den : Nat) : Option Binary64 :=
  let scaled := num * Nat.pow 2 1074
  let exponent := Nat.log2 (scaled / den) - 52
  let significand := roundDiv scaled (den * Nat.pow 2 exponent)
  let (significand, exponent) :=
    if significand == Nat.pow 2 53 then (Nat.pow 2 52, exponent + 1) else (significand, exponent)
  if exponent ≤ 2045 then some ⟨negative, significand, exponent⟩ else none

/-- The double nearest to a natural number below `2 ^ 64`. -/
def ofNat (negative : Bool) (n : Nat) : Binary64 :=
  (ofQuotient negative n 1).getD (zero negative)

/-- The rounded product with a positive double, or `none` when it overflows. -/
def mul (x y : Binary64) : Option Binary64 :=
  ofQuotient x.negative (x.significand * y.significand * Nat.pow 2 (x.exponent + y.exponent))
    (Nat.pow 2 2148)

/-- The rounded quotient by a positive double. -/
def div (x y : Binary64) : Binary64 :=
  (ofQuotient x.negative (x.significand * Nat.pow 2 x.exponent)
    (y.significand * Nat.pow 2 y.exponent)).getD (zero x.negative)

/-- The double nearest to a power of ten up to `10 ^ 308`. -/
def tenPow (k : Nat) : Binary64 :=
  (ofQuotient false (Nat.pow 10 k) 1).getD (zero false)

/-- The value of `significand * 10 ^ exponent` reached by rounding the significand first and then
scaling by powers of ten no larger than `10 ^ 308`; `none` when it overflows. The `steps` bound the
number of full scalings by `10 ^ 308`. -/
def scaleTen : (steps : Nat) → Binary64 → Int → Option Binary64
  | _, x, .ofNat k =>
    if k ≤ 308 then x.mul (tenPow k) else if x.isZero then some x else none
  | 0, x, .negSucc _ => some (zero x.negative)
  | steps + 1, x, .negSucc k =>
    if k + 1 ≤ 308 then some (x.div (tenPow (k + 1)))
    else if x.isZero then some x
    else scaleTen steps (x.div (tenPow 308)) (308 - (k + 1 : Nat))

/-- The double written as an integer significand and a decimal exponent. -/
def ofDecimal (negative : Bool) (significand : Nat) (exponent : Int) : Option Binary64 :=
  scaleTen 4 (ofNat negative significand) exponent

end Binary64

end BoundaryContract
