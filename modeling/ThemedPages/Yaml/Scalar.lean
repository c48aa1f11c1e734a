import ThemedPages.Document.Value
import ThemedPages.Yaml.Token.Text

/-!
# YAML scalars

What a plain scalar stands for: null, a boolean, an integer, a number, or else its own text.
Integers may be written with a sign and to the bases 16, 8 and 2; a decimal integer with a leading
zero is text. What has the form of an integer of 128 bits but not of 64 has no value at all.
-/

namespace ThemedPages.Yaml

/-- The words for null. -/
def isNull (s : String) : Bool := ["null", "Null", "NULL", "~"].contains s

/-- The words for booleans. -/
def bool? (s : String) : Option Bool :=
  if ["true", "True", "TRUE"].contains s then some true
  else if ["false", "False", "FALSE"].contains s then some false
  else none

/-- The number that digits to a base stand for; there is at least one. -/
def digits? (base : Nat) (cs : List Char) : Option Nat :=
  if cs.isEmpty then none
  else cs.foldlM (fun n c => do
    let d ← hexValue? c
    if d < base then some (base * n + d) else none) 0

/-- Digits after a zero and the letter of a base, or decimal digits. -/
def magnitude? (cs : List Char) : Option Nat :=
  match cs with
  | '0' :: 'x' :: rest => digits? 16 rest
  | '0' :: 'o' :: rest => digits? 8 rest
  | '0' :: 'b' :: rest => digits? 2 rest
  | '0' :: _ :: _ => none
  | _ => digits? 10 cs

/-- The integer that a text stands for, of any size, and whether it has a minus sign. -/
def integer? (s : String) : Option (Bool × Nat) :=
  match s.toList with
  | '-' :: rest => (magnitude? rest).map (true, ·)
  | '+' :: rest => (magnitude? rest).map (false, ·)
  | cs => (magnitude? cs).map (false, ·)

/-- An integer from zero up, of at most 64 bits. -/
def natural64? (s : String) : Option Nat :=
  match integer? s with
  | some (false, n) => if n < UInt64.size then some n else none
  | _ => none

/-- An integer of at most 64 bits with a sign. -/
def integer64? (s : String) : Option Int :=
  match integer? s with
  | some (true, n) => if n ≤ Nat.pow 2 63 then some (-(n : Int)) else none
  | some (false, n) => if n < Nat.pow 2 63 then some n else none
  | none => none

/-- Whether a text is a decimal integer with a leading zero. -/
def hasLeadingZero (s : String) : Bool :=
  let cs := match s.toList with
    | '-' :: rest | '+' :: rest => rest
    | cs => cs
  1 < cs.length && cs.head? == some '0' && cs.all Char.isDigit

/-- A finite number in decimal notation without a plus sign. -/
def decimal? (cs : List Char) : Option Binary64 := do
  let (negative, cs) := match cs with
    | '-' :: rest => (true, rest)
    | cs => (false, cs)
  let whole := cs.takeWhile Char.isDigit
  let cs := cs.drop whole.length
  let (fraction, cs) := match cs with
    | '.' :: rest => (rest.takeWhile Char.isDigit, rest.dropWhile Char.isDigit)
    | cs => ([], cs)
  let digits ← digits? 10 (whole ++ fraction)
  let power ← match cs with
    | [] => some 0
    | e :: rest =>
      if e != 'e' && e != 'E' then none
      else match rest with
        | '-' :: rest => (digits? 10 rest).map fun n => -(n : Int)
        | '+' :: rest => (digits? 10 rest).map fun n => (n : Int)
        | rest => (digits? 10 rest).map fun n => (n : Int)
  Binary64.ofDecimal? negative digits (power - fraction.length)

/-- The number that a text stands for; of those that are not finite only that they are none. -/
def float? (s : String) : Option (Option Binary64) :=
  if [".inf", ".Inf", ".INF", "+.inf", "+.Inf", "+.INF", "-.inf", "-.Inf", "-.INF", ".nan", ".NaN",
      ".NAN"].contains s then some none
  else match s.toList with
    | '+' :: '-' :: _ => none
    | '+' :: rest => (decimal? rest).map some
    | cs => (decimal? cs).map some

/-- The value of an integer, if it has one; `none` inside if the text is no integer. -/
def intValue? (s : String) : Option (Option Value) :=
  match integer? s with
  | none => some none
  | some (negative, n) =>
    if n < UInt64.size && !negative then some (some (.num (.int n)))
    else if n ≤ Nat.pow 2 63 && negative then some (some (.num (.int (-(n : Int)))))
    else if n < Nat.pow 2 128 && !negative || n ≤ Nat.pow 2 127 && negative then none
    else some none

/-- The value of a number: null if it is not finite. -/
def floatValue (x : Option Binary64) : Value :=
  match x with
  | some x => .num (.float x)
  | none => .null

/-- What a plain scalar stands for. -/
def plainValue? (s : String) : Option Value := do
  if s.isEmpty || isNull s then return .null
  match bool? s with
  | some b => return .bool b
  | none =>
    match ← intValue? s with
    | some v => return v
    | none =>
      match (if hasLeadingZero s then none else float? s) with
      | some x => return floatValue x
      | none => return .str s

end ThemedPages.Yaml
