/-!
# Double precision numbers

A finite number of the format binary64 is kept as sign, integer significand and power of two, so
that rounding is arithmetic on natural numbers. Rounding goes to the nearest number, and from
the middle between two to the one with the even significand. A result too large to round to a
finite number is `none`.
-/

namespace ThemedPages

/-- A finite number `± significand · 2 ^ exponent`. -/
structure Binary64 where
  /-- Whether the sign is minus; zero has a sign too. -/
  negative : Bool
  /-- Below `2 ^ 53`, and at least `2 ^ 52` unless the exponent is the least one. -/
  significand : Nat
  /-- At least `-1074`. -/
  exponent : Int
  deriving DecidableEq, Repr

namespace Binary64

/-- Zero, with the given sign. -/
def zero (negative : Bool) : Binary64 := ⟨negative, 0, -1074⟩

/-- The quotient rounded to the nearest integer, a half going to the even neighbour. -/
def divideToNearest (num den : Nat) : Nat :=
  let q := num / den
  let r := num % den
  if 2 * r < den then q else if den < 2 * r then q + 1 else if q % 2 = 0 then q else q + 1

/-- The greatest `e` with `2 ^ e ≤ num / den`, for a positive quotient. -/
def floorLog2 (num den : Nat) : Int :=
  let guess : Int := (Nat.log2 num : Int) - (Nat.log2 den : Int)
  let fits :=
    if 0 ≤ guess then den * Nat.pow 2 guess.toNat ≤ num else den ≤ num * Nat.pow 2 (-guess).toNat
  if fits then guess else guess - 1

/-- The number nearest to `± num / den`. -/
def ofRatio? (negative : Bool) (num den : Nat) : Option Binary64 :=
  if num = 0 then some (zero negative)
  else
    let exponent := max (floorLog2 num den - 52) (-1074)
    let significand :=
      if 0 ≤ exponent then divideToNearest num (den * Nat.pow 2 exponent.toNat)
      else divideToNearest (num * Nat.pow 2 (-exponent).toNat) den
    let (significand, exponent) :=
      if significand = Nat.pow 2 53 then (Nat.pow 2 52, exponent + 1) else (significand, exponent)
    if 971 < exponent then none else some ⟨negative, significand, exponent⟩

/-- The absolute value as a quotient of integers. -/
def ratio (x : Binary64) : Nat × Nat :=
  if 0 ≤ x.exponent then (x.significand * Nat.pow 2 x.exponent.toNat, 1)
  else (x.significand, Nat.pow 2 (-x.exponent).toNat)

/-- The product, rounded. -/
def mul? (x y : Binary64) : Option Binary64 :=
  let (a, b) := x.ratio
  let (c, d) := y.ratio
  ofRatio? (x.negative != y.negative) (a * c) (b * d)

/-- The quotient, rounded; the divisor is not zero. -/
def div? (x y : Binary64) : Option Binary64 :=
  let (a, b) := x.ratio
  let (c, d) := y.ratio
  ofRatio? (x.negative != y.negative) (a * d) (b * c)

/-- The number nearest to `± digits · 10 ^ exponent`. Powers so large or so small that no digit
count of the significand brings them back into range are not computed. -/
def ofDecimal? (negative : Bool) (digits : Nat) (exponent : Int) : Option Binary64 :=
  if digits = 0 then some (zero negative)
  else
    let size : Int := (Nat.log2 digits : Int) / 3 + 1
    if 400 < exponent then none
    else if exponent + size < -400 then some (zero negative)
    else if 0 ≤ exponent then ofRatio? negative (digits * Nat.pow 10 exponent.toNat) 1
    else ofRatio? negative digits (Nat.pow 10 (-exponent).toNat)

/-- A decimal read in two steps that both round: the significand first, then its product with, or
quotient by, the rounded power of ten. Powers below `10 ^ -308` are divided off in several steps. -/
def ofScaled? (negative : Bool) (significand : Nat) (exponent : Int) : Option Binary64 := do
  let start ← ofRatio? negative significand 1
  if start.significand = 0 then return zero negative
  if 308 < exponent then none
  else if 0 ≤ exponent then start.mul? (← ofRatio? false (Nat.pow 10 exponent.toNat) 1)
  else if -308 ≤ exponent then start.div? (← ofRatio? false (Nat.pow 10 (-exponent).toNat) 1)
  else
    let reduced ← start.div? (← ofRatio? false (Nat.pow 10 308) 1)
    if reduced.significand = 0 || exponent + 308 < -308 then return zero negative
    reduced.div? (← ofRatio? false (Nat.pow 10 (-(exponent + 308)).toNat) 1)

end Binary64

end ThemedPages
