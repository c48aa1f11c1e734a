import ThemedPages.Document.Shape
import ThemedPages.Document.Value
import ThemedPages.Text.Letters

/-!
# Reading JSON text

A reader for JSON text. Integers that fit 64 bits, signed or unsigned, stay integers; larger ones,
`-0`, and every number with a point or a power of ten are double precision numbers, and one too
large for that is refused. Lists and objects may be nested at most 127 deep.

What the expected shape passes over has to be well formed, but its numbers may be of any size, its
escapes may name lone surrogates, its texts may hold bytes that are no text, and it may be nested
to any depth.
-/

namespace ThemedPages.Json

open Text

/-! ## Blanks and words -/

/-- The characters that may stand between tokens. -/
def isSpace (c : Char) : Bool := c == ' ' || c == '\n' || c == '\t' || c == '\r'

/-- What follows the blanks at the start. -/
def skipSpace (cs : List Letter) : List Letter := cs.dropWhile (·.any isSpace)

/-- What follows a given word. -/
def word? (w : String) (cs : List Letter) : Option (List Letter) :=
  if (letters w).isPrefixOf cs then some (cs.drop w.length) else none

/-! ## Numbers -/

/-- The parts of a written number. -/
structure NumberText where
  negative : Bool
  whole : List Char
  fraction : List Char
  power : Option (Bool × List Char)

/-- The digits at the start, and what follows them. -/
def digits : List Letter → List Char × List Letter
  | some c :: rest =>
    if c.isDigit then
      let (ds, rest) := digits rest
      (c :: ds, rest)
    else ([], some c :: rest)
  | rest => ([], rest)

/-- The digits at the start, of which there is at least one, and what follows them. -/
def digits? (cs : List Letter) : Option (List Char × List Letter) :=
  let (ds, rest) := digits cs
  if ds.isEmpty then none else some (ds, rest)

/-- Split a number off the text. A leading zero stands alone, and a point or a power of ten is
followed by a digit. -/
def numberText? (cs : List Letter) : Option (NumberText × List Letter) := do
  let (negative, cs) := match cs with
    | some '-' :: rest => (true, rest)
    | cs => (false, cs)
  let (whole, cs) ← digits? cs
  if whole.length != 1 && whole.head? == some '0' then none
  let (fraction, cs) ← match cs with
    | some '.' :: rest => digits? rest
    | cs => some ([], cs)
  let (power, cs) ← match cs with
    | some 'e' :: rest | some 'E' :: rest =>
      let (down, rest) := match rest with
        | some '+' :: rest => (false, rest)
        | some '-' :: rest => (true, rest)
        | rest => (false, rest)
      (digits? rest).map fun (ds, rest) => (some (down, ds), rest)
    | cs => some (none, cs)
  return (⟨negative, whole, fraction, power⟩, cs)

/-- Append digits to a significand while it fits 64 bits; gives the digits left over too. -/
def gather (significand : Nat) : List Char → Nat × List Char
  | [] => (significand, [])
  | c :: rest =>
    let next := significand * 10 + (c.toNat - '0'.toNat)
    if next < UInt64.size then gather next rest else (significand, c :: rest)

/-- The number that a text stands for. Digits that do not fit the significand count only by their
place. -/
def NumberText.value? (t : NumberText) : Option Number :=
  let (significand, cut) := gather 0 t.whole
  let exact := t.fraction.isEmpty && t.power.isNone && cut.isEmpty
  if exact && !t.negative then some (.int significand)
  else if exact && significand != 0 && significand ≤ Nat.pow 2 63 then
    some (.int (-(significand : Int)))
  else
    let (significand, rest) := gather significand t.fraction
    let places : Int := cut.length - (t.fraction.length - rest.length : Nat)
    let power : Int := match t.power with
      | none => 0
      | some (down, digits) =>
        let n : Int := digits.foldl (fun n c => 10 * n + (c.toNat - '0'.toNat)) 0
        if down then -n else n
    (Binary64.ofScaled? t.negative significand (places + power)).map .float

/-! ## Text -/

/-- The value of a hexadecimal digit. -/
def hexDigit? (c : Char) : Option Nat :=
  if '0' ≤ c && c ≤ '9' then some (c.toNat - '0'.toNat)
  else if 'a' ≤ c && c ≤ 'f' then some (c.toNat - 'a'.toNat + 10)
  else if 'A' ≤ c && c ≤ 'F' then some (c.toNat - 'A'.toNat + 10)
  else none

/-- The number that hexadecimal digits stand for. -/
def hexNumber? (digits : List Char) : Option Nat :=
  digits.foldlM (fun n c => (hexDigit? c).map (16 * n + ·)) 0

/-- The character of an escape that is one letter. -/
def escaped? : Char → Option Char
  | '"' => some '"'
  | '\\' => some '\\'
  | '/' => some '/'
  | 'b' => some '\x08'
  | 'f' => some '\x0c'
  | 'n' => some '\n'
  | 'r' => some '\r'
  | 't' => some '\t'
  | _ => none

/-- Where the reading of a quoted text stands. -/
inductive QuotedState
  /-- Between characters. -/
  | plain
  /-- After a backslash. -/
  | escape
  /-- Within `\u`, with some digits read. -/
  | unit (digits : List Char)
  /-- After the first half of a surrogate pair. -/
  | half (high : Nat)
  /-- After the first half and a backslash. -/
  | halfEscape (high : Nat)
  /-- Within the second half, with some digits read. -/
  | halfUnit (high : Nat) (digits : List Char)

/-- Read a text up to its closing quote. In text that is passed over, any unit is taken, and bytes
that are no text are left out. -/
def quoted? (passedOver : Bool) :
    QuotedState → List Char → List Letter → Option (List Char × List Letter)
  | _, _, [] => none
  | .plain, done, none :: rest => if passedOver then quoted? passedOver .plain done rest else none
  | _, _, none :: _ => none
  | .plain, done, some c :: rest =>
    if c = '"' then some (done.reverse, rest)
    else if c = '\\' then quoted? passedOver .escape done rest
    else if c.toNat < 0x20 then none
    else quoted? passedOver .plain (c :: done) rest
  | .escape, done, some c :: rest =>
    if c = 'u' then quoted? passedOver (.unit []) done rest
    else match escaped? c with
      | some e => quoted? passedOver .plain (e :: done) rest
      | none => none
  | .unit digits, done, some c :: rest =>
    if digits.length < 3 then quoted? passedOver (.unit (digits ++ [c])) done rest
    else match hexNumber? (digits ++ [c]) with
      | none => none
      | some n =>
        if passedOver || n < 0xD800 || 0xDFFF < n then
          quoted? passedOver .plain (Char.ofNat n :: done) rest
        else if n < 0xDC00 then quoted? passedOver (.half n) done rest
        else none
  | .half high, done, some c :: rest =>
    if c = '\\' then quoted? passedOver (.halfEscape high) done rest else none
  | .halfEscape high, done, some c :: rest =>
    if c = 'u' then quoted? passedOver (.halfUnit high []) done rest else none
  | .halfUnit high digits, done, some c :: rest =>
    if digits.length < 3 then quoted? passedOver (.halfUnit high (digits ++ [c])) done rest
    else match hexNumber? (digits ++ [c]) with
      | none => none
      | some low =>
        if 0xDC00 ≤ low && low ≤ 0xDFFF then
          let n := 0x10000 + (high - 0xD800) * 0x400 + (low - 0xDC00)
          quoted? passedOver .plain (Char.ofNat n :: done) rest
        else none

/-! ## Values -/

mutual

/-- Read one value. `fuel` bounds the characters left, `depth` the nesting. -/
def value? (fuel depth : Nat) (shape : Shape) (cs : List Letter) : Option (Value × List Letter) :=
  match fuel with
  | 0 => none
  | fuel + 1 =>
    let passedOver := shape matches .skip
    match skipSpace cs with
    | some '"' :: rest =>
      (quoted? passedOver .plain [] rest).map fun (s, rest) => (.str (String.ofList s), rest)
    | some '[' :: rest =>
      if depth = 0 && !passedOver then none
      else match skipSpace rest with
        | some ']' :: rest => some (.arr [], rest)
        | rest => (items? fuel (depth - 1) shape 0 rest).map fun (xs, rest) => (.arr xs, rest)
    | some '\x7b' :: rest =>
      if depth = 0 && !passedOver then none
      else match skipSpace rest with
        | some '\x7d' :: rest => some (.obj [], rest)
        | rest => (fields? fuel (depth - 1) shape rest).map fun (fs, rest) =>
          (if shape.keepsFields then .obj fs else Value.object fs, rest)
    | some 'n' :: rest => (word? "ull" rest).map fun rest => (.null, rest)
    | some 't' :: rest => (word? "rue" rest).map fun rest => (.bool true, rest)
    | some 'f' :: rest => (word? "alse" rest).map fun rest => (.bool false, rest)
    | cs => do
      let (t, rest) ← numberText? cs
      if passedOver then return (.null, rest)
      return (.num (← t.value?), rest)

/-- Read the items of a list up to its closing bracket. -/
def items? (fuel depth : Nat) (shape : Shape) (index : Nat) (cs : List Letter) :
    Option (List Value × List Letter) :=
  match fuel with
  | 0 => none
  | fuel + 1 => do
    let (x, rest) ← value? fuel depth (shape.item index) cs
    match skipSpace rest with
    | some ',' :: rest =>
      let (xs, rest) ← items? fuel depth shape (index + 1) rest
      return (x :: xs, rest)
    | some ']' :: rest => return ([x], rest)
    | _ => none

/-- Read the fields of an object up to its closing brace. -/
def fields? (fuel depth : Nat) (shape : Shape) (cs : List Letter) :
    Option (List (String × Value) × List Letter) :=
  match fuel with
  | 0 => none
  | fuel + 1 =>
    match skipSpace cs with
    | some '"' :: rest => do
      let (k, rest) ← quoted? (shape matches .skip) .plain [] rest
      let key := String.ofList k
      let rest ← word? ":" (skipSpace rest)
      let (x, rest) ← value? fuel depth (shape.field key) rest
      match skipSpace rest with
      | some ',' :: rest =>
        let (fs, rest) ← fields? fuel depth (shape.after key) rest
        return ((key, x) :: fs, rest)
      | some '\x7d' :: rest => return ([(key, x)], rest)
      | _ => none
    | _ => none

end

/-- Read letters as one value, of which `shape` tells what counts. -/
def readLetters? (shape : Shape) (cs : List Letter) : Option Value := do
  let (v, rest) ← value? (2 * cs.length + 2) 127 shape cs
  if (skipSpace rest).isEmpty then some v else none

/-- Read a whole text as one value, of which `shape` tells what counts. -/
def read? (shape : Shape) (s : String) : Option Value := readLetters? shape (letters s)

end ThemedPages.Json
