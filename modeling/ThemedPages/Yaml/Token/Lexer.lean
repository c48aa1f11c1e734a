import ThemedPages.Yaml.Token.Text

/-!
# Reading YAML tokens

The tokens of a text. In a block, indentation opens and closes sequences and mappings. A key needs
no mark: whatever may turn out to be one is remembered (`PendingKey`), and when a colon follows on
the same line within 1024 bytes, a key token is put in front of it. Where a block mapping
could only go on with a key, a candidate that no colon follows is an error.

Every reading step takes at least one character, so the number of characters that are left bounds
the steps. It is counted once, and goes with the reading as `bound` or as fuel: no step asks for
the length of the text.
-/

namespace ThemedPages.Yaml

/-- Something that becomes a key if a colon follows. -/
structure PendingKey where
  /-- The number of tokens before it. -/
  token : Nat
  index : Nat
  line : Nat
  column : Nat
  /-- Whether nothing but a key can stand there. -/
  required : Bool

/-- Where the reading of tokens stands. -/
structure Lexer where
  cursor : Cursor
  tokens : Array Token := #[]
  /-- The column of the innermost block; before any block, -1. -/
  indent : Int := -1
  /-- The columns of the blocks around it. -/
  indents : List Int := []
  /-- The candidate for a key in each pair of brackets around, the innermost first, and last the
  one outside of all brackets. -/
  pending : List (Option PendingKey) := [none]
  /-- Whether a key may start here. -/
  keyAllowed : Bool := true

namespace Lexer

/-- Whether the reading stands within brackets. -/
def inFlow (l : Lexer) : Bool := 1 < l.pending.length

/-- Append a token. -/
def emit (l : Lexer) (t : Token) : Lexer := { l with tokens := l.tokens.push t }

/-- Move on by some characters. -/
def skip (l : Lexer) (n : Nat) : Lexer := { l with cursor := l.cursor.skip n }

/-! ## Blocks -/

/-- Open a block at a column beyond the innermost one. Its token goes in front of the token with
the given number, or to the end. -/
def openBlock (l : Lexer) (column : Nat) (before? : Option Nat) (t : Token) : Lexer :=
  if l.inFlow || (column : Int) ≤ l.indent then l
  else { l with
    indents := l.indent :: l.indents
    indent := column
    tokens := match before? with
      | some n => l.tokens.insertIdxIfInBounds n t
      | none => l.tokens.push t }

/-- Close the blocks beyond a column. -/
def closeBlocks (l : Lexer) (column : Int) : Lexer :=
  if l.inFlow then l
  else
    let closed := (l.indent :: l.indents).takeWhile (column < ·)
    let left := (l.indent :: l.indents).drop closed.length
    { l with
      tokens := closed.foldl (fun ts _ => ts.push .blockEnd) l.tokens
      indent := left.headD (-1)
      indents := left.tail }

/-! ## Candidates for keys -/

/-- Give up candidates on earlier lines and those too far back. -/
def dropStale (l : Lexer) : Option Lexer := do
  let pending ← l.pending.mapM fun key? => match key? with
    | none => some none
    | some key =>
      if key.line < l.cursor.line || key.index + 1024 < l.cursor.index then
        if key.required then none else some none
      else some (some key)
  return { l with pending }

/-- Give up the innermost candidate. -/
def dropKey (l : Lexer) : Option Lexer :=
  match l.pending with
  | some key :: rest => if key.required then none else some { l with pending := none :: rest }
  | _ => some l

/-- Remember that a key may start here. -/
def saveKey (l : Lexer) : Option Lexer := do
  if !l.keyAllowed then return l
  let required := !l.inFlow && l.indent == (l.cursor.column : Int)
  let l ← l.dropKey
  let key : PendingKey := ⟨l.tokens.size, l.cursor.index, l.cursor.line, l.cursor.column, required⟩
  return { l with pending := some key :: l.pending.tail }

/-! ## Between tokens -/

/-- Walk to the next token, over blanks, comments, line breaks, and a byte order mark at the start
of a line. A tab counts as a blank only where it cannot be taken for indentation. -/
def toNextToken : Nat → Lexer → Lexer
  | 0, l => l
  | fuel + 1, l =>
    let blank := fun c => c == ' ' || ((l.inFlow || !l.keyAllowed) && c == '\t')
    let cursor := (l.cursor.skipByteOrderMark.skipWhile blank).skipComment
    if cursor.rest.head?.any isBreak then
      toNextToken fuel
        { l with cursor := cursor.skipBreak, keyAllowed := l.keyAllowed || !l.inFlow }
    else { l with cursor }

/-! ## Directives -/

/-- A number of at most nine digits. -/
def number? (cs : List Char) : Option (Nat × List Char) :=
  let digits := cs.takeWhile Char.isDigit
  if digits.isEmpty || 9 < digits.length then none
  else some (digits.foldl (fun n c => 10 * n + (c.toNat - '0'.toNat)) 0, cs.drop digits.length)

/-- The octets of percent escapes, as characters. The first octet tells how many there are; whether
they are the bytes of a character is not looked at. -/
def octets? : Nat → Bool → List Char → Option (List Char × List Char)
  | 0, _, cs => some ([], cs)
  | n + 1, first, cs =>
    match cs with
    | '%' :: a :: b :: rest => do
      let octet := 16 * (← hexValue? a) + (← hexValue? b)
      let width ←
        if !first then (if octet / 64 = 2 then some n else none)
        else if octet < 0x80 then some 0
        else if octet / 32 = 6 then some 1
        else if octet / 16 = 14 then some 2
        else if octet / 8 = 30 then some 3
        else none
      let (more, rest) ← octets? (min width n) false rest
      return (Char.ofNat octet :: more, rest)
    | _ => none

/-- What counts of a tag's characters: they end at a null. -/
def untilNull (cs : List Char) : String := String.ofList (cs.takeWhile (· != '\x00'))

/-- The characters of a tag, with escapes decoded. Within `!<…>` and in directives some marks of
brackets may stand too. -/
def tagChars? (verbatim : Bool) : Nat → List Char → List Char → Option (List Char × List Char)
  | 0, text, cs => some (text.reverse, cs)
  | fuel + 1, text, cs =>
    match cs with
    | [] => some (text.reverse, [])
    | '%' :: _ => do
      let (os, rest) ← octets? 4 true cs
      tagChars? verbatim fuel (os.reverse ++ text) rest
    | c :: rest =>
      if isWordChar c || ";/?:@&=+$.!~*'()".toList.contains c ||
          (verbatim && (c == ',' || c == '[' || c == ']')) then
        tagChars? verbatim fuel (c :: text) rest
      else some (text.reverse, cs)

/-- A handle: an exclamation mark, and perhaps a name and a second one. -/
def handle? : List Char → Option (List Char × List Char)
  | '!' :: cs =>
    let name := cs.takeWhile isWordChar
    let rest := cs.drop name.length
    match rest with
    | '!' :: rest => some ('!' :: name ++ ['!'], rest)
    | rest => some ('!' :: name, rest)
  | _ => none

/-- The token of a directive. -/
def directive? (cs : List Char) : Option (Token × List Char) := do
  let name := cs.takeWhile isWordChar
  let rest := cs.drop name.length
  if !endsWord rest then none
  let rest := rest.dropWhile isGap
  if name == "YAML".toList then
    let (major, rest) ← number? rest
    match rest with
    | '.' :: rest =>
      let (minor, rest) ← number? rest
      return (.version major minor, rest)
    | _ => none
  else if name == "TAG".toList then
    let (handle, rest) ← handle? rest
    if handle.length != 1 && handle.getLast? != some '!' then none
    if !rest.head?.any isGap then none
    let rest := rest.dropWhile isGap
    let (start, after) ← tagChars? true rest.length [] rest
    if start.isEmpty || !endsWord after then none
    return (.tagHandle (String.ofList handle) (untilNull start), after)
  else none

/-- The handle and the ending of a tag. A tag that is only an exclamation mark has no handle. -/
def tagParts? (cs : List Char) : Option (String × String × List Char) := do
  match cs with
  | '!' :: '<' :: rest =>
    let (ending, rest) ← tagChars? true rest.length [] rest
    match rest with
    | '>' :: rest => if ending.isEmpty then none else some ("", untilNull ending, rest)
    | _ => none
  | _ =>
    let (handle, rest) ← handle? cs
    let (more, rest) ← tagChars? false rest.length [] rest
    if 1 < handle.length && handle.getLast? == some '!' then
      if more.isEmpty then none else some (String.ofList handle, untilNull more, rest)
    else
      let ending := untilNull (handle.tail ++ more)
      some (if ending.isEmpty then ("", "!", rest) else ("!", ending, rest))

/-- The token of a tag, which starts at its exclamation mark. -/
def tag? (inFlow : Bool) (cs : List Char) : Option (Token × List Char) := do
  let (handle, ending, rest) ← tagParts? cs
  if !endsWord rest && !(inFlow && rest.head? == some ',') then none
  return (.tag handle ending, rest)

/-! ## Tokens -/

/-- Put a token that is read with the given reader of characters, all on one line. -/
def take (l : Lexer) (read : List Char → Option (Token × List Char)) : Option Lexer := do
  let (t, rest) ← read l.cursor.rest
  return (l.skip (l.cursor.rest.length - rest.length)).emit t

/-- A directive, up to the end of its line. -/
def lexDirective (l : Lexer) : Option Lexer := do
  let l ← (l.closeBlocks (-1)).dropKey
  let l ← ({ l with keyAllowed := false }.skip 1).take directive?
  let cursor := (l.cursor.skipWhile isGap).skipComment
  if endsLine cursor.rest then some { l with cursor := cursor.skipBreak } else none

/-- A document marker. -/
def lexDocumentMark (l : Lexer) (t : Token) : Option Lexer := do
  let l ← (l.closeBlocks (-1)).dropKey
  return ({ l with keyAllowed := false }.skip 3).emit t

/-- An opening bracket. -/
def lexFlowStart (l : Lexer) (t : Token) : Option Lexer := do
  let l ← l.saveKey
  return ({ l with pending := none :: l.pending, keyAllowed := true }.skip 1).emit t

/-- A closing bracket. -/
def lexFlowEnd (l : Lexer) (t : Token) : Option Lexer := do
  let l ← l.dropKey
  let pending := if l.inFlow then l.pending.tail else l.pending
  return ({ l with pending, keyAllowed := false }.skip 1).emit t

/-- A comma. -/
def lexFlowEntry (l : Lexer) : Option Lexer := do
  let l ← l.dropKey
  return ({ l with keyAllowed := true }.skip 1).emit .flowEntry

/-- A dash before an item. -/
def lexBlockEntry (l : Lexer) : Option Lexer := do
  if !l.inFlow && !l.keyAllowed then none
  let l ← (l.openBlock l.cursor.column none .blockSequenceStart).dropKey
  return ({ l with keyAllowed := true }.skip 1).emit .blockEntry

/-- A question mark before a key. -/
def lexKey (l : Lexer) : Option Lexer := do
  if !l.inFlow && !l.keyAllowed then none
  let l ← (l.openBlock l.cursor.column none .blockMappingStart).dropKey
  return ({ l with keyAllowed := !l.inFlow }.skip 1).emit .key

/-- A colon before a value. It makes the candidate a key, if there is one. -/
def lexValue (l : Lexer) : Option Lexer := do
  let l ← match l.pending with
    | some key :: rest =>
      let l := { l with tokens := l.tokens.insertIdxIfInBounds key.token .key }
      let l := l.openBlock key.column (some key.token) .blockMappingStart
      some { l with pending := none :: rest, keyAllowed := false }
    | _ =>
      if !l.inFlow && !l.keyAllowed then none
      else
        let l := l.openBlock l.cursor.column none .blockMappingStart
        some { l with keyAllowed := !l.inFlow }
  return (l.skip 1).emit .value

/-- An anchor or an alias, after its mark. -/
def name? (make : String → Token) (cs : List Char) : Option (Token × List Char) :=
  let name := (cs.drop 1).takeWhile isWordChar
  let rest := cs.drop (1 + name.length)
  if name.isEmpty then none
  else if !(endsWord rest || rest.head?.any ("?:,]\x7d%@\x60".toList.contains ·)) then none
  else some (make (String.ofList name), rest)

/-- Something on one line that may start a key. -/
def lexOnLine (l : Lexer) (read : List Char → Option (Token × List Char)) : Option Lexer := do
  let l ← l.saveKey
  { l with keyAllowed := false }.take read

/-- A block scalar. -/
def lexBlockScalar (l : Lexer) (bound : Nat) (folds : Bool) : Option Lexer := do
  let l ← l.dropKey
  let (text, cursor) ← blockScalar folds l.indent bound (l.cursor.skip 1)
  let style := if folds then .folded else .literal
  return { l with cursor, keyAllowed := true }.emit (.scalar (String.ofList text.reverse) style)

/-- A quoted scalar. -/
def lexQuoted (l : Lexer) (bound : Nat) (single : Bool) : Option Lexer := do
  let l ← l.saveKey
  let (text, cursor) ← quotedScalar single bound [] (l.cursor.skip 1)
  let style := if single then .singleQuoted else .doubleQuoted
  return { l with cursor, keyAllowed := false }.emit (.scalar (String.ofList text.reverse) style)

/-- A plain scalar. A key may start on the line after it. -/
def lexPlain (l : Lexer) (bound : Nat) : Option Lexer := do
  let l ← l.saveKey
  let (text, broken, cursor) ←
    plainScalar l.inFlow (l.indent + 1) bound [] (.blanks []) l.cursor
  return { l with cursor, keyAllowed := broken }.emit (.scalar (String.ofList text.reverse) .plain)

/-- Whether a plain scalar may start here. -/
def startsPlain (inFlow : Bool) : List Char → Bool
  | [] => false
  | c :: rest =>
    !(isBlankOrBreak c || "-?:,[]\x7b\x7d#&*!|>'\"%@\x60".toList.contains c) ||
    (c == '-' && !rest.head?.any isGap) ||
    (!inFlow && (c == '?' || c == ':') && !endsWord rest)

/-- Read one token; fewer than `bound` characters are left. -/
def step (l : Lexer) (bound : Nat) : Option Lexer := do
  let cs := l.cursor.rest
  let atStart := l.cursor.column == 0
  if atStart && cs.head? == some '%' then l.lexDirective
  else if atStart && isTriple '-' cs then l.lexDocumentMark .documentStart
  else if atStart && isTriple '.' cs then l.lexDocumentMark .documentEnd
  else match cs with
    | [] => none
    | '[' :: _ => l.lexFlowStart .flowSequenceStart
    | '\x7b' :: _ => l.lexFlowStart .flowMappingStart
    | ']' :: _ => l.lexFlowEnd .flowSequenceEnd
    | '\x7d' :: _ => l.lexFlowEnd .flowMappingEnd
    | ',' :: _ => l.lexFlowEntry
    | c :: rest =>
      if c == '-' && endsWord rest then l.lexBlockEntry
      else if c == '?' && (l.inFlow || endsWord rest) then l.lexKey
      else if c == ':' && (l.inFlow || endsWord rest) then l.lexValue
      else if c == '*' then l.lexOnLine (name? .alias)
      else if c == '&' then l.lexOnLine (name? .anchor)
      else if c == '!' then l.lexOnLine (tag? l.inFlow)
      else if c == '|' && !l.inFlow then l.lexBlockScalar bound false
      else if c == '>' && !l.inFlow then l.lexBlockScalar bound true
      else if c == '\'' then l.lexQuoted bound true
      else if c == '"' then l.lexQuoted bound false
      else if startsPlain l.inFlow cs then l.lexPlain bound
      else none

/-- Read all tokens; fewer characters are left than there is fuel. -/
def run : Nat → Lexer → Option (Array Token)
  | 0, _ => none
  | fuel + 1, l => do
    let l := l.toNextToken (fuel + 1)
    let l ← l.dropStale
    let l := l.closeBlocks l.cursor.column
    if l.cursor.rest.isEmpty then
      let l ← (l.closeBlocks (-1)).dropKey
      return l.tokens
    else run fuel (← l.step (fuel + 1))

end Lexer

/-- The tokens of a text. -/
def tokens? (s : String) : Option (List Token) :=
  let cs := s.toList
  if cs.all isAllowed then
    (Lexer.run (cs.length + 1) { cursor := { rest := cs } }).map Array.toList
  else none

end ThemedPages.Yaml
