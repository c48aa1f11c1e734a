import ThemedPages.Decimal.Binary64

/-!
# Shortest decimals

The decimal digits that stand for a double precision number are the fewest that read back as it,
and of those the ones nearest to its value. A decimal reads back when it lies in the interval of
reals that round to the number; the ends belong to it when the significand is even.

For each count of digits only the two neighbours of the value on the grid of such decimals are
tried: if any point of the grid lies in the interval, one of the two does.
-/

namespace ThemedPages.Decimal

/-- A positive decimal `digits · 10 ^ exponent`. -/
structure Digits where
  digits : Nat
  exponent : Int
  deriving DecidableEq, Repr

/-- The reals that round to a number, in quarters of its last place: `low`, `value` and `high`
times `num / den`. -/
structure Interval where
  low : Nat
  value : Nat
  high : Nat
  closed : Bool
  num : Nat
  den : Nat

/-- The interval of a number that is not zero. Below a power of two the neighbour is half as far. -/
def intervalOf (x : Binary64) : Interval :=
  let m := x.significand
  let below := if m = Nat.pow 2 52 && x.exponent != -1074 then 1 else 2
  let exponent := x.exponent - 2
  { low := 4 * m - below
    value := 4 * m
    high := 4 * m + 2
    closed := m % 2 = 0
    num := if 0 ≤ exponent then Nat.pow 2 exponent.toNat else 1
    den := if 0 ≤ exponent then 1 else Nat.pow 2 (-exponent).toNat }

/-- Whether `digits · up / down` reads back. -/
def Interval.holds (i : Interval) (digits up down : Nat) : Bool :=
  let point := digits * up * i.den
  let low := i.low * i.num * down
  let high := i.high * i.num * down
  if i.closed then low ≤ point && point ≤ high else low < point && point < high

/-- The decimal with last digit at `10 ^ place` that reads back and is nearest to the value. -/
def nearestAt (i : Interval) (place : Int) : Option Nat :=
  let up := if 0 ≤ place then Nat.pow 10 place.toNat else 1
  let down := if 0 ≤ place then 1 else Nat.pow 10 (-place).toNat
  let scaled := i.value * i.num * down
  let unit := up * i.den
  let lower := scaled / unit
  let rest := scaled % unit
  let lowerHolds := i.holds lower up down
  let upperHolds := i.holds (lower + 1) up down
  if lowerHolds && upperHolds then
    some (if 2 * rest < unit || (2 * rest = unit && lower % 2 = 0) then lower else lower + 1)
  else if lowerHolds then some lower
  else if upperHolds then some (lower + 1)
  else none

/-- The decimal without zeros at its end. -/
def Digits.normalize (fuel : Nat) (d : Digits) : Digits :=
  match fuel with
  | 0 => d
  | fuel + 1 =>
    if d.digits % 10 = 0 && d.digits != 0 then
      Digits.normalize fuel ⟨d.digits / 10, d.exponent + 1⟩
    else d

/-- The least `k` with the value below `10 ^ k`, counted up from `k`. -/
def magnitudeFrom (num den : Nat) : Nat → Int → Int
  | 0, k => k
  | fuel + 1, k =>
    let below := if 0 ≤ k then num < den * Nat.pow 10 k.toNat else num * Nat.pow 10 (-k).toNat < den
    if below then k else magnitudeFrom num den fuel (k + 1)

/-- The shortest decimal of a number's absolute value; zero has the digit zero. -/
def shortest (x : Binary64) : Digits :=
  if x.significand = 0 then ⟨0, 0⟩
  else
    let (num, den) := x.ratio
    let start : Int := Binary64.floorLog2 num den * 30103 / 100000 - 1
    let magnitude := magnitudeFrom num den 4 start
    let i := intervalOf x
    let tries := (List.range 17).findSome? fun (n : Nat) =>
      let place := magnitude - (n : Int) - 1
      (nearestAt i place).map fun d => (⟨d, place⟩ : Digits)
    (tries.getD ⟨0, 0⟩).normalize 20

end ThemedPages.Decimal
