/-!
# Places in YAML text

The character classes of YAML text, and a cursor that walks it and knows its line and column.
A line ends at a carriage return, a line feed, both together, a next line character, or one of the
two Unicode separators.
-/

namespace ThemedPages.Yaml

/-- Line breaks. -/
def isBreak (c : Char) : Bool :=
  c == '\n' || c == '\r' || c == '\u0085' || c == '\u2028' || c == '\u2029'

/-- Blanks within a line. -/
def isGap (c : Char) : Bool := c == ' ' || c == '\t'

/-- Blanks and line breaks. -/
def isBlankOrBreak (c : Char) : Bool := isGap c || isBreak c

/-- The characters of names. -/
def isWordChar (c : Char) : Bool := c.isAlphanum || c == '-' || c == '_'

/-- The characters that YAML text may hold. -/
def isAllowed (c : Char) : Bool :=
  let n := c.toNat
  n == 0x09 || n == 0x0A || n == 0x0D || (0x20 ≤ n && n ≤ 0x7E) || n == 0x85 ||
    (0xA0 ≤ n && n ≤ 0xFFFD) || 0x10000 ≤ n

/-- Whether a blank, a line break or the end stands here. -/
def endsWord : List Char → Bool
  | [] => true
  | c :: _ => isBlankOrBreak c

/-- Whether a line break or the end stands here. -/
def endsLine : List Char → Bool
  | [] => true
  | c :: _ => isBreak c

/-- Whether three of one character, and after them a blank or the end, stand here. -/
def isTriple (mark : Char) : List Char → Bool
  | a :: b :: c :: rest => a == mark && b == mark && c == mark && endsWord rest
  | _ => false

/-- A place in the text. -/
structure Cursor where
  /-- What follows. -/
  rest : List Char
  /-- Bytes before. -/
  index : Nat := 0
  /-- Lines before. -/
  line : Nat := 0
  /-- Characters before on the line. -/
  column : Nat := 0

namespace Cursor

/-- After `n` characters of the same line. -/
def skip (c : Cursor) (n : Nat) : Cursor :=
  { c with
    rest := c.rest.drop n
    index := (c.rest.take n).foldl (fun i ch => i + ch.utf8Size) c.index
    column := c.column + n }

/-- After the characters of the same line that `p` accepts. -/
def skipWhile (c : Cursor) (p : Char → Bool) : Cursor :=
  c.skip (c.rest.takeWhile p).length

/-- The line break here as it counts in text, and the place after it. A separator stands for
itself, every other break for a line feed. -/
def readBreak (c : Cursor) : List Char × Cursor :=
  match c.rest with
  | '\r' :: '\n' :: rest => (['\n'], ⟨rest, c.index + 2, c.line + 1, 0⟩)
  | b :: rest =>
    if isBreak b then
      ([if b == '\u2028' || b == '\u2029' then b else '\n'],
        ⟨rest, c.index + b.utf8Size, c.line + 1, 0⟩)
    else ([], c)
  | [] => ([], c)

/-- The place after a byte order mark at the start of a line, if one stands here. -/
def skipByteOrderMark (c : Cursor) : Cursor :=
  if c.column == 0 && c.rest.head? == some '\ufeff' then c.skip 1 else c

/-- The place after the line break here, if there is one. -/
def skipBreak (c : Cursor) : Cursor := c.readBreak.2

/-- The place after a comment, if one stands here. -/
def skipComment (c : Cursor) : Cursor :=
  if c.rest.head? == some '#' then c.skipWhile (!isBreak ·) else c

/-- Whether a document marker stands here: `---` or `...` at the start of a line. -/
def atDocumentMark (c : Cursor) : Bool :=
  c.column == 0 && (isTriple '-' c.rest || isTriple '.' c.rest)

end Cursor

end ThemedPages.Yaml
