import ThemedPages.Decimal.Shortest

/-!
# Written decimals

How the shortest decimal of a number is laid out as text. A layout says up to where the number is
written with a plain decimal point, whether a whole number keeps `.0`, and whether a positive
power of ten is written with a plus sign.
-/

namespace ThemedPages.Decimal

/-- The choices that turn digits into text. -/
structure Layout where
  /-- Whether every number is written without a power of ten. -/
  positional : Bool
  /-- Whether a whole number ends in `.0`. -/
  pointZero : Bool
  /-- Whether a positive power of ten is written with a plus sign. -/
  plusSign : Bool

/-- Plain decimals: no power of ten, and no point in a whole number. -/
def Layout.plain : Layout := ⟨true, false, false⟩

/-- Numbers in JSON text: a power of ten from `1e+16` up and below `0.00001`. -/
def Layout.json : Layout := ⟨false, true, true⟩

/-- Numbers in YAML text: as in JSON text, without the plus sign. -/
def Layout.yaml : Layout := ⟨false, true, false⟩

/-- The digits with a point before the last `fraction` of them. -/
def withPoint (digits : List Char) (fraction : Nat) : List Char :=
  let whole := digits.length - fraction
  digits.take whole ++ '.' :: digits.drop whole

/-- Write a decimal without its sign. -/
def Digits.layout (l : Layout) (d : Digits) : List Char :=
  let digits := Nat.toDigits 10 d.digits
  let point : Int := digits.length + d.exponent
  if 0 ≤ d.exponent && (l.positional || point ≤ 16) then
    digits ++ List.replicate d.exponent.toNat '0' ++ if l.pointZero then ['.', '0'] else []
  else if 0 < point && (l.positional || point ≤ 16) then
    withPoint digits (-d.exponent).toNat
  else if point ≤ 0 && (l.positional || -5 < point) then
    '0' :: '.' :: List.replicate (-point).toNat '0' ++ digits
  else
    let power := point - 1
    let mantissa := if digits.length = 1 then digits else withPoint digits (digits.length - 1)
    let sign := if power < 0 then ['-'] else if l.plusSign then ['+'] else []
    mantissa ++ 'e' :: sign ++ Nat.toDigits 10 power.natAbs

/-- Write a number. -/
def write (l : Layout) (x : Binary64) : String :=
  String.ofList ((if x.negative then ['-'] else []) ++ (shortest x).layout l)

/-- Write an integer. -/
def writeInt (i : Int) : String :=
  String.ofList ((if i < 0 then ['-'] else []) ++ Nat.toDigits 10 i.natAbs)

end ThemedPages.Decimal
