import SchemaCompiler.Decimal.Binary64

/-!
# The fewest digits that read back

A positive binary number is the one nearest to every real of an interval around it.  Of the decimal
numbers `c · 10 ^ g` in that interval, `Binary64.shortest` takes one with the largest `g`, hence
with the fewest digits, and the nearest one if there are two.  All comparisons are exact.

The interval is described in quarters of the last place: the number itself is `4 · mantissa`
quarters, and the ends are half a place away, or a quarter below a power of two.
-/

namespace SchemaCompiler

/-- The number `coefficient · 10 ^ exponent`. -/
structure Decimal where
  coefficient : Nat
  exponent : Int
deriving DecidableEq, Repr

namespace Binary64

/-- The lower end of the interval that rounds to `x`, in quarters of the last place. -/
def lowerQuarters (x : Binary64) : Nat :=
  if x.mantissa = Nat.pow 2 (precision - 1) ∧ minExponent < x.exponent then 4 * x.mantissa - 1
  else 4 * x.mantissa - 2

/-- The upper end of the interval that rounds to `x`, in quarters of the last place. -/
def upperQuarters (x : Binary64) : Nat :=
  4 * x.mantissa + 2

/-- Positive numbers `s` and `t` such that `c · 10 ^ g` is `c · s / t` quarters of the last place.
-/
def gridScale (x : Binary64) (g : Int) : Nat × Nat :=
  let quarter := x.exponent - 2
  (Nat.pow 10 g.toNat * Nat.pow 2 (-quarter).toNat,
    Nat.pow 10 (-g).toNat * Nat.pow 2 quarter.toNat)

/-- Whether `c · 10 ^ g`, with the scale of that grid, rounds to `x`.  The ends of the interval
count exactly if the mantissa is even. -/
def readsBack (x : Binary64) (scale : Nat × Nat) (c : Nat) : Bool :=
  let lower := x.lowerQuarters * scale.2
  let upper := x.upperQuarters * scale.2
  let value := c * scale.1
  if x.mantissa % 2 = 0 then lower ≤ value && value ≤ upper else lower < value && value < upper

/-- The number on the grid `10 ^ g` that rounds to `x`, the nearest one and of two at the same
distance the even one. -/
def onGrid (x : Binary64) (g : Int) : Option Nat :=
  let scale := x.gridScale g
  let below := 4 * x.mantissa * scale.2 / scale.1
  let above := below + 1
  let toBelow := 4 * x.mantissa * scale.2 - below * scale.1
  let toAbove := above * scale.1 - 4 * x.mantissa * scale.2
  match x.readsBack scale below, x.readsBack scale above with
  | true, true =>
    if toBelow < toAbove then some below
    else if toAbove < toBelow then some above
    else some (below + below % 2)
  | true, false => some below
  | false, true => some above
  | false, false => none

/-- Looks for the coarsest grid with a number that rounds to `x`, from `10 ^ g` down. -/
def searchGrids (x : Binary64) : Nat → Int → Decimal
  | 0, g => ⟨0, g⟩
  | fuel + 1, g =>
    match x.onGrid g with
    | some c => ⟨c, g⟩
    | none => searchGrids x fuel (g - 1)

/-- A power of ten that exceeds every number that rounds to `x`, by its exponent.  These numbers
are below `2 ^ n` with one more than the leading bit of `x` for `n`, and `0.30103` is slightly more
than the decimal logarithm of two. -/
def powerAbove (x : Binary64) : Int :=
  (x.mantissa.log2 + x.exponent + 1) * 30103 / 100000 + 1

/-- The decimal number with the fewest digits that rounds to `x`, for a finite `x` other than zero.
No grid from `10 ^ x.powerAbove` up has such a number, and seventeen digits always suffice, so that
the search ends within twenty grids. -/
def shortest (x : Binary64) : Decimal :=
  x.searchGrids 20 x.powerAbove

end Binary64

end SchemaCompiler
