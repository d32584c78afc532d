/-!
# Double-precision binary numbers

A number that is not an integer is held as `± mantissa · 2 ^ exponent` with a mantissa of at most 53
bits and an exponent of at least `-1074`.  `Binary64.round` is the number nearest to a quotient, a
tie going to the even mantissa; products and quotients of numbers are the exact ones, rounded.
Rounding knows no upper bound: a result outside the finite range is recognised by
`Binary64.overflows`.
-/

namespace SchemaCompiler

/-- The number `± mantissa · 2 ^ exponent`. -/
structure Binary64 where
  negative : Bool
  mantissa : Nat
  exponent : Int
deriving DecidableEq, Repr

/-- The integer nearest to `num / den`; a tie goes to the even one. -/
def roundDiv (num den : Nat) : Nat :=
  let q := num / den
  let r := num % den
  if 2 * r < den then q
  else if den < 2 * r then q + 1
  else q + q % 2

namespace Binary64

/-- The least exponent. -/
def minExponent : Int := -1074

/-- The largest exponent of a finite number. -/
def maxExponent : Int := 971

/-- The number of bits of a mantissa. -/
def precision : Nat := 53

/-- Zero, with a sign. -/
def zero (negative : Bool) : Binary64 :=
  ⟨negative, 0, minExponent⟩

/-- The number with the other sign. -/
def neg (x : Binary64) : Binary64 :=
  { x with negative := !x.negative }

/-- Whether the number lies outside the finite range. -/
def overflows (x : Binary64) : Bool :=
  maxExponent < x.exponent

/-- The largest `k` with `2 ^ k ≤ num / den`, both positive. -/
def logRatio (num den : Nat) : Int :=
  let k : Int := (num.log2 : Int) - den.log2
  if num * Nat.pow 2 (-k).toNat < den * Nat.pow 2 k.toNat then k - 1 else k

/-- The non-negative number nearest to `num / den`. -/
def round (num den : Nat) : Binary64 :=
  if num = 0 then zero false
  else
    let e := max (logRatio num den - (precision - 1)) minExponent
    let m := roundDiv (num * Nat.pow 2 (-e).toNat) (den * Nat.pow 2 e.toNat)
    if m = Nat.pow 2 precision then ⟨false, Nat.pow 2 (precision - 1), e + 1⟩ else ⟨false, m, e⟩

/-- The numerator of the absolute value. -/
def num (x : Binary64) : Nat :=
  x.mantissa * Nat.pow 2 x.exponent.toNat

/-- The denominator of the absolute value. -/
def den (x : Binary64) : Nat :=
  Nat.pow 2 (-x.exponent).toNat

/-- The rounded product of two non-negative numbers. -/
def mul (x y : Binary64) : Binary64 :=
  round (x.num * y.num) (x.den * y.den)

/-- The rounded quotient of two non-negative numbers. -/
def div (x y : Binary64) : Binary64 :=
  round (x.num * y.den) (x.den * y.num)

/-- The largest power of ten that is a finite number is `10 ^ 308`. -/
def maxPowerOfTen : Nat := 308

/-- The number nearest to `10 ^ k`. -/
def powerOfTen (k : Nat) : Binary64 :=
  round (Nat.pow 10 k) 1

/-- `x · 10 ^ k` for a non-negative `x`, or nothing if that is no finite number. -/
def scaleUp (x : Binary64) (k : Nat) : Option Binary64 :=
  if k ≤ maxPowerOfTen then
    let y := x.mul (powerOfTen k)
    if y.overflows then none else some y
  else if x.mantissa = 0 then some x
  else none

/-- `x / 10 ^ k` for a non-negative `x`, the largest powers of ten first. -/
def scaleDown (x : Binary64) (k : Nat) : Binary64 :=
  if k ≤ maxPowerOfTen then x.div (powerOfTen k)
  else if x.mantissa = 0 then x
  else scaleDown (x.div (powerOfTen maxPowerOfTen)) (k - maxPowerOfTen)
termination_by k
decreasing_by simp_all [maxPowerOfTen]; omega

/-- `significand · 10 ^ k`: the significand is rounded, then scaled. -/
def ofDecimal (significand : Nat) (k : Int) : Option Binary64 :=
  let x := round significand 1
  if 0 ≤ k then x.scaleUp k.toNat else some (x.scaleDown (-k).toNat)

/-- Numeric equality: the two zeros are equal. -/
def sameNumber (x y : Binary64) : Bool :=
  (x.mantissa == 0 && y.mantissa == 0) || x == y

end Binary64

end SchemaCompiler
