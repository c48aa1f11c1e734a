import ThemedPages.Yaml.Cursor
import ThemedPages.Yaml.Token

/-!
# Scalars in YAML text

How the text of a scalar is read from its written form: plain, in single or double quotes, or as a
block. Line breaks within plain and quoted scalars are folded: a single break becomes a space, and
of several breaks the first is dropped.
-/

namespace ThemedPages.Yaml

/-! ## Folding -/

/-- What stands between two words of a scalar. -/
inductive Between
  /-- Blanks of one line, the last first. -/
  | blanks (reversed : List Char)
  /-- Line breaks: the first, which an escaped break leaves out, and the others, the last first. -/
  | breaks (first : List Char) (reversed : List Char)

/-- The characters that stand for a gap, the last first. -/
def Between.folded : Between → List Char
  | .blanks reversed => reversed
  | .breaks first reversed =>
    if first == ['\n'] then (if reversed.isEmpty then [' '] else reversed)
    else reversed ++ first.reverse

/-- Whether the gap has a line break. -/
def Between.isBroken : Between → Bool
  | .blanks _ => false
  | .breaks _ _ => true

/-- Walk over blanks and line breaks. With an indent, a tab after a line break must not stand
before that column. -/
def skipBetween (indent? : Option Int) : Nat → Between → Cursor → Option (Between × Cursor)
  | 0, gap, c => some (gap, c)
  | fuel + 1, gap, c =>
    match c.rest.head? with
    | none => some (gap, c)
    | some ch =>
      if isGap ch then
        if gap.isBroken && ch == '\t' && indent?.any (fun i => (c.column : Int) < i) then none
        else
          let gap := match gap with
            | .blanks reversed => .blanks (ch :: reversed)
            | gap => gap
          skipBetween indent? fuel gap (c.skip 1)
      else if isBreak ch then
        let (b, c) := c.readBreak
        let gap := match gap with
          | .blanks _ => .breaks b []
          | .breaks first reversed => .breaks first (b ++ reversed)
        skipBetween indent? fuel gap c
      else some (gap, c)

/-! ## Plain scalars -/

/-- The characters that end a plain scalar within brackets. -/
def isFlowMark (c : Char) : Bool := c == ',' || c == '[' || c == ']' || c == '\x7b' || c == '\x7d'

/-- The word at the start of a text, the last character first, and what follows it. A colon
within brackets may not stand before one of the marks of brackets. -/
def plainWord (inFlow : Bool) : List Char → List Char → Option (List Char × List Char)
  | word, [] => some (word, [])
  | word, c :: rest =>
    if isBlankOrBreak c then some (word, c :: rest)
    else if inFlow && c == ':' && rest.head?.any (fun d => isFlowMark d || d == '?') then none
    else if c == ':' && endsWord rest then some (word, c :: rest)
    else if inFlow && isFlowMark c then some (word, c :: rest)
    else plainWord inFlow (c :: word) rest

/-- Read a plain scalar on. Gives the text, last character first, whether the scalar was followed
by a line break, and the place after it. -/
def plainScalar (inFlow : Bool) (indent : Int) :
    Nat → List Char → Between → Cursor → Option (List Char × Bool × Cursor)
  | 0, _, _, _ => none
  | fuel + 1, text, gap, c => do
    if c.atDocumentMark || c.rest.head? == some '#' then return (text, gap.isBroken, c)
    let (word, rest) ← plainWord inFlow [] c.rest
    let (text, gap) :=
      if word.isEmpty then (text, gap) else (word ++ gap.folded ++ text, .blanks [])
    let c := c.skip word.length
    if rest.head?.all (!isBlankOrBreak ·) then return (text, gap.isBroken, c)
    let (gap, c) ← skipBetween (some indent) fuel gap c
    if !inFlow && (c.column : Int) < indent then return (text, gap.isBroken, c)
    plainScalar inFlow indent fuel text gap c

/-! ## Quoted scalars -/

/-- The value of a hexadecimal digit. -/
def hexValue? (c : Char) : Option Nat :=
  if '0' ≤ c && c ≤ '9' then some (c.toNat - '0'.toNat)
  else if 'a' ≤ c && c ≤ 'f' then some (c.toNat - 'a'.toNat + 10)
  else if 'A' ≤ c && c ≤ 'F' then some (c.toNat - 'A'.toNat + 10)
  else none

/-- The number written with `count` hexadecimal digits. -/
def hexNumber? (count : Nat) (cs : List Char) : Option Nat :=
  let digits := cs.take count
  if digits.length < count then none
  else digits.foldlM (fun n c => (hexValue? c).map (16 * n + ·)) 0

/-- An escape after its backslash: a character and the length, or the count of its digits. -/
inductive Escape
  | char (c : Char)
  | digits (count : Nat)

/-- What the letter of an escape stands for. -/
def escape? : Char → Option Escape
  | '0' => some (.char '\x00')
  | 'a' => some (.char '\x07')
  | 'b' => some (.char '\x08')
  | 't' | '\t' => some (.char '\t')
  | 'n' => some (.char '\n')
  | 'v' => some (.char '\x0b')
  | 'f' => some (.char '\x0c')
  | 'r' => some (.char '\r')
  | 'e' => some (.char '\x1b')
  | ' ' => some (.char ' ')
  | '"' => some (.char '"')
  | '/' => some (.char '/')
  | '\\' => some (.char '\\')
  | 'N' => some (.char '\u0085')
  | '_' => some (.char '\u00a0')
  | 'L' => some (.char '\u2028')
  | 'P' => some (.char '\u2029')
  | 'x' => some (.digits 2)
  | 'u' => some (.digits 4)
  | 'U' => some (.digits 8)
  | _ => none

/-- The character that an escape stands for, and the number of characters after the backslash. -/
def escapedChar? : List Char → Option (Char × Nat)
  | [] => none
  | letter :: rest =>
    match escape? letter with
    | none => none
    | some (.char c) => some (c, 1)
    | some (.digits count) => do
      let n ← hexNumber? count rest
      if (0xD800 ≤ n && n ≤ 0xDFFF) || 0x10FFFF < n then none
      return (Char.ofNat n, count + 1)

/-- Read a quoted scalar on, up to its closing quote. Gives the text and the place after it. -/
def quotedScalar (single : Bool) : Nat → List Char → Cursor → Option (List Char × Cursor)
  | 0, _, _ => none
  | fuel + 1, text, c =>
    if c.atDocumentMark then none
    else match c.rest with
      | [] => none
      | '\'' :: '\'' :: _ =>
        if single then quotedScalar single fuel ('\'' :: text) (c.skip 2)
        else quotedScalar single fuel ('\'' :: text) (c.skip 1)
      | ch :: rest =>
        if ch == (if single then '\'' else '"') then some (text, c.skip 1)
        else if isBlankOrBreak ch then do
          let (gap, c) ← skipBetween none fuel (.blanks []) c
          quotedScalar single fuel (gap.folded ++ text) c
        else if !single && ch == '\\' then
          if rest.head?.any isBreak then do
            let (gap, c) ← skipBetween none fuel (.breaks [] []) (c.skip 1).skipBreak
            quotedScalar single fuel (gap.folded ++ text) c
          else do
            let (e, n) ← escapedChar? rest
            quotedScalar single fuel (e :: text) (c.skip (n + 1))
        else quotedScalar single fuel (ch :: text) (c.skip 1)

/-! ## Block scalars -/

/-- What becomes of the line breaks at the end of a block scalar. -/
inductive Chomp
  | strip
  | clip
  | keep
  deriving DecidableEq, Repr

/-- The marks after `|` or `>`: what becomes of the end, and a number of columns to indent by. -/
def blockMarks? (c : Cursor) : Option (Chomp × Option Nat × Cursor) :=
  let chomp? : Char → Option Chomp
    | '+' => some .keep
    | '-' => some .strip
    | _ => none
  let digit? (ch : Char) : Option Nat := if ch.isDigit then some (ch.toNat - '0'.toNat) else none
  match c.rest with
  | a :: rest =>
    match chomp? a, digit? a with
    | some chomp, _ =>
      match rest.head?.bind digit? with
      | some 0 => none
      | some n => some (chomp, some n, c.skip 2)
      | none => some (chomp, none, c.skip 1)
    | none, some 0 => none
    | none, some n =>
      match rest.head?.bind chomp? with
      | some chomp => some (chomp, some n, c.skip 2)
      | none => some (.clip, some n, c.skip 1)
    | none, none => some (.clip, none, c)
  | [] => some (.clip, none, c)

/-- Walk over the indentation and the empty lines before a line of a block scalar. The indent is
zero as long as it is not known. Gives the widest indentation seen and the line breaks. A tab must
not stand within the indentation. -/
def blockBreaks (indent : Nat) :
    Nat → Nat → List Char → Cursor → Option (Nat × List Char × Cursor)
  | 0, widest, breaks, c => some (widest, breaks, c)
  | fuel + 1, widest, breaks, c =>
    let spaces := (c.rest.takeWhile (· == ' ')).length
    let c := c.skip (if indent = 0 then spaces else min spaces (indent - c.column))
    let widest := max widest c.column
    if (indent = 0 || c.column < indent) && c.rest.head? == some '\t' then none
    else if c.rest.head?.any isBreak then
      let (b, c) := c.readBreak
      blockBreaks indent fuel widest (b ++ breaks) c
    else some (widest, breaks, c)

/-- Read the lines of a block scalar. `text`, `lineBreak` and `breaks` hold their last character
first; `afterBlank` tells whether the line before started with a blank. -/
def blockLines (folds : Bool) (indent : Nat) :
    Nat → List Char → List Char → List Char → Bool → Cursor →
      Option (List Char × List Char × List Char × Cursor)
  | 0, text, lineBreak, breaks, _, c => some (text, lineBreak, breaks, c)
  | fuel + 1, text, lineBreak, breaks, afterBlank, c =>
    if c.column != indent || c.rest.isEmpty then some (text, lineBreak, breaks, c)
    else do
      let blank := c.rest.head?.any isGap
      let joint :=
        if folds && lineBreak == ['\n'] && !afterBlank && !blank then
          if breaks.isEmpty then [' '] else breaks
        else breaks ++ lineBreak
      let line := c.rest.takeWhile (!isBreak ·)
      let (lineBreak, c) := (c.skip line.length).readBreak
      let (_, breaks, c) ← blockBreaks indent (fuel + 1) 0 [] c
      blockLines folds indent fuel (line.reverse ++ joint ++ text) lineBreak breaks blank c

/-- Read a block scalar after its `|` or `>`, within the block at column `parent`. -/
def blockScalar (folds : Bool) (parent : Int) (fuel : Nat) (c : Cursor) :
    Option (List Char × Cursor) := do
  let (chomp, increment, c) ← blockMarks? c
  let c := (c.skipWhile isGap).skipComment
  if !endsLine c.rest then none
  let c := c.skipBreak
  let given := increment.map fun n => if 0 ≤ parent then parent.toNat + n else n
  let (widest, breaks, c) ← blockBreaks (given.getD 0) fuel 0 [] c
  let indent := given.getD (max (max widest (parent + 1).toNat) 1)
  let (text, lineBreak, breaks, c) ← blockLines folds indent fuel [] [] breaks false c
  let ending := match chomp with
    | .strip => []
    | .clip => lineBreak
    | .keep => breaks ++ lineBreak
  return (ending ++ text, c)

end ThemedPages.Yaml
