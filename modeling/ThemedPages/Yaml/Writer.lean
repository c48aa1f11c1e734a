import ThemedPages.Decimal.Layout
import ThemedPages.Yaml.Scalar

/-!
# Writing YAML text

Values as block-style YAML text: objects and lists on lines of their own, indented by two, lists
under a key at the indentation of the key, and an object or list within a list started on the line
of its dash. Lines are never folded.

A text is plain where it can be. Text of several lines is a literal block; text that would read
back as something else than text, or that a plain scalar cannot hold, is in single quotes; what
neither form can hold is in double quotes.
-/

namespace ThemedPages.Yaml

/-! ## What a text needs -/

/-- Blanks, line breaks and the null character part words. -/
def partsWords (c : Char) : Bool := isBlankOrBreak c || c == '\x00'

/-- Whether a character may stand in text without an escape. -/
def isPrintable (c : Char) : Bool :=
  let n := c.toNat
  n == 0x0A || (0x20 ≤ n && n ≤ 0x7E) || (0xA0 ≤ n && n ≤ 0xFFFD && n != 0xFEFF) || 0x10000 ≤ n

/-- Whether two neighbouring characters satisfy `p`. -/
def hasPair (p : Char → Char → Bool) : List Char → Bool
  | a :: b :: rest => p a b || hasPair p (b :: rest)
  | _ => false

/-- Whether a break has a blank right after it. -/
def hasBreakSpace (cs : List Char) : Bool := hasPair (fun a b => isBreak a && b == ' ') cs

/-- Whether a break has a blank right before it. -/
def hasSpaceBreak (cs : List Char) : Bool := hasPair (fun a b => a == ' ' && isBreak b) cs

/-- The characters that mean something at the start of a plain scalar. -/
def startMarks : List Char := "#,[]\x7b\x7d&*!|>'\"%@\x60".toList

/-- Whether a text, as a plain scalar, would be taken for something else at its start. -/
def startsMarked (cs : List Char) : Bool :=
  match cs with
  | [] => false
  | c :: rest =>
    cs.take 3 == ['-', '-', '-'] || cs.take 3 == ['.', '.', '.'] || startMarks.contains c ||
      ((c == '?' || c == ':' || c == '-') && rest.head?.all partsWords)

/-- Whether a colon before a blank or a number sign after one follows the first character. -/
def hasMark : List Char → Bool
  | a :: b :: rest =>
    (b == ':' && rest.head?.all partsWords) || (b == '#' && partsWords a) || hasMark (b :: rest)
  | _ => false

/-- Whether the text can be a plain scalar. -/
def canBePlain (cs : List Char) : Bool :=
  cs.all (fun c => isPrintable c && !isBreak c) && cs.head? != some ' ' &&
    cs.getLast? != some ' ' && !startsMarked cs && !hasMark cs

/-- Whether the text can stand in single quotes. -/
def canBeSingleQuoted (cs : List Char) : Bool :=
  cs.all isPrintable && !hasBreakSpace cs && !hasSpaceBreak cs

/-- Whether the text can be a literal block. -/
def canBeLiteral (cs : List Char) : Bool :=
  cs.all isPrintable && !hasSpaceBreak cs && cs.getLast? != some ' '

/-- Whether a text as a plain scalar would be read as something else than text. -/
def looksOther (s : String) : Bool :=
  s.isEmpty || isNull s || (bool? s).isSome || intValue? s != some none || hasLeadingZero s ||
    (float? s).isSome

/-- How a text is written. -/
def styleOf (s : String) : ScalarStyle :=
  let cs := s.toList
  if cs.contains '\n' then if canBeLiteral cs then .literal else .doubleQuoted
  else if canBePlain cs && !looksOther s then .plain
  else if canBeSingleQuoted cs then .singleQuoted
  else .doubleQuoted

/-! ## Scalars -/

/-- Blanks up to an indentation. -/
def pad (indent : Nat) : List Char := List.replicate indent ' '

/-- The inside of single quotes. A line break is doubled at its first place in a row of breaks, and
a line is indented. -/
def singleQuotedChars (indent : Nat) : (afterBreak : Bool) → List Char → List Char
  | afterBreak, [] => if afterBreak then pad indent else []
  | afterBreak, c :: rest =>
    if isBreak c then
      (if !afterBreak && c == '\n' then ['\n'] else []) ++ c :: singleQuotedChars indent true rest
    else
      (if afterBreak then pad indent else []) ++ (if c == '\'' then ['\''] else []) ++
        c :: singleQuotedChars indent false rest

/-- Digits to the base 16, in upper case, up to a width. -/
def hexDigits (width n : Nat) : List Char :=
  let digits := (Nat.toDigits 16 n).map Char.toUpper
  List.replicate (width - digits.length) '0' ++ digits

/-- The escape of a character within double quotes. -/
def escape (c : Char) : List Char :=
  '\\' :: match c.toNat with
  | 0x00 => ['0']
  | 0x07 => ['a']
  | 0x08 => ['b']
  | 0x09 => ['t']
  | 0x0A => ['n']
  | 0x0B => ['v']
  | 0x0C => ['f']
  | 0x0D => ['r']
  | 0x1B => ['e']
  | 0x22 => ['"']
  | 0x5C => ['\\']
  | 0x85 => ['N']
  | 0xA0 => ['_']
  | 0x2028 => ['L']
  | 0x2029 => ['P']
  | n => if n ≤ 0xFF then 'x' :: hexDigits 2 n else if n ≤ 0xFFFF then 'u' :: hexDigits 4 n
    else 'U' :: hexDigits 8 n

/-- The inside of double quotes. -/
def doubleQuotedChars (cs : List Char) : List Char :=
  cs.flatMap fun c =>
    if !isPrintable c || isBreak c || c == '"' || c == '\\' then escape c else [c]

/-- What the header of a literal block says about its text: the indentation, if the text does not
show it, and what becomes of the breaks at the end. -/
def literalHints (cs : List Char) : List Char :=
  let indentHint := if cs.head?.any fun c => c == ' ' || isBreak c then ['2'] else []
  let endHint := match cs.reverse with
    | [] => ['-']
    | [c] => if isBreak c then ['+'] else ['-']
    | c :: d :: _ => if !isBreak c then ['-'] else if isBreak d then ['+'] else []
  indentHint ++ endHint

/-- The lines of a literal block. -/
def literalChars (indent : Nat) : (atStart : Bool) → List Char → List Char
  | _, [] => []
  | atStart, c :: rest =>
    if isBreak c then c :: literalChars indent true rest
    else (if atStart then pad indent else []) ++ c :: literalChars indent false rest

/-- A text within `indent`, up to the end of its line. -/
def writeText (indent : Nat) (s : String) : List Char :=
  let cs := s.toList
  match styleOf s with
  | .singleQuoted => '\'' :: singleQuotedChars indent false cs ++ ['\'', '\n']
  | .doubleQuoted => '"' :: doubleQuotedChars cs ++ ['"', '\n']
  | .literal | .folded =>
    '|' :: literalHints cs ++ '\n' :: literalChars indent true cs ++
      if cs.getLast?.any isBreak then [] else ['\n']
  | .plain => cs ++ ['\n']

/-- A number. -/
def writeNumber : Number → String
  | .int i => Decimal.writeInt i
  | .float x => Decimal.write .yaml x

/-- Whether a key may stand before its colon without a question mark: it is short and on one
line. -/
def isSimpleKey (k : String) : Bool := !k.toList.any isBreak && k.utf8ByteSize ≤ 128

/-! ## Values -/

mutual

/-- A value after what announces it: the colon of a key at an indentation, or, if `marked`, a dash,
a question mark or the colon of a marked key, which let lists and objects start on their line. -/
def writeNode (marked : Bool) (indent : Nat) : Value → List Char
  | .null => " null\n".toList
  | .bool b => (if b then " true\n" else " false\n").toList
  | .num n => ' ' :: (writeNumber n).toList ++ ['\n']
  | .str s => ' ' :: writeText (indent + 2) s
  | .arr [] => " []\n".toList
  | .obj [] => " \x7b\x7d\n".toList
  | .arr items =>
    if marked then ' ' :: (writeItems (indent + 2) items).drop (indent + 2)
    else '\n' :: writeItems indent items
  | .obj fields =>
    if marked then ' ' :: (writeFields (indent + 2) fields).drop (indent + 2)
    else '\n' :: writeFields (indent + 2) fields

/-- The items of a list on their lines. -/
def writeItems (indent : Nat) : List Value → List Char
  | [] => []
  | x :: rest => pad indent ++ '-' :: writeNode true indent x ++ writeItems indent rest

/-- The fields of an object on their lines. -/
def writeFields (indent : Nat) : List (String × Value) → List Char
  | [] => []
  | (k, x) :: rest =>
    let field :=
      if isSimpleKey k then (writeText indent k).dropLast ++ ':' :: writeNode false indent x
      else '?' :: ' ' :: writeText (indent + 2) k ++ pad indent ++ ':' :: writeNode true indent x
    pad indent ++ field ++ writeFields indent rest

end

/-- A value as a whole document. -/
def write (v : Value) : String :=
  String.ofList <| match v with
  | .arr (x :: rest) => writeItems 0 (x :: rest)
  | .obj (f :: rest) => writeFields 0 (f :: rest)
  | .str s => writeText 0 s
  | v => (writeNode true 0 v).drop 1

end ThemedPages.Yaml
