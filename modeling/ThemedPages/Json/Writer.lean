import ThemedPages.Decimal.Layout
import ThemedPages.Document.Value

/-!
# Writing JSON text

Values as JSON text, on one line without blanks, or over several lines with an indent of two. In
text only quotes, backslashes and control characters are escaped.
-/

namespace ThemedPages.Json

/-- A hexadecimal digit in lower case. -/
def hexDigit (n : Nat) : Char := Nat.digitChar (n % 16)

/-- The written form of one character within quotes. -/
def quoteChar (c : Char) : List Char :=
  match c with
  | '"' => ['\\', '"']
  | '\\' => ['\\', '\\']
  | '\x08' => ['\\', 'b']
  | '\x0c' => ['\\', 'f']
  | '\n' => ['\\', 'n']
  | '\r' => ['\\', 'r']
  | '\t' => ['\\', 't']
  | c =>
    if c.toNat < 0x20 then ['\\', 'u', '0', '0', hexDigit (c.toNat / 16), hexDigit c.toNat]
    else [c]

/-- A text within quotes. -/
def quote (s : String) : String := String.ofList ('"' :: s.toList.flatMap quoteChar ++ ['"'])

/-- A number. -/
def writeNumber : Number → String
  | .int i => Decimal.writeInt i
  | .float x => Decimal.write .json x

mutual

/-- A value on one line. -/
def write : Value → String
  | .null => "null"
  | .bool b => if b then "true" else "false"
  | .num n => writeNumber n
  | .str s => quote s
  | .arr items => "[" ++ writeItems items ++ "]"
  | .obj fields => "\x7b" ++ writeFields fields ++ "\x7d"

/-- Items parted by commas. -/
def writeItems : List Value → String
  | [] => ""
  | [x] => write x
  | x :: rest => write x ++ "," ++ writeItems rest

/-- Fields parted by commas. -/
def writeFields : List (String × Value) → String
  | [] => ""
  | [(k, x)] => quote k ++ ":" ++ write x
  | (k, x) :: rest => quote k ++ ":" ++ write x ++ "," ++ writeFields rest

end

/-- A line break and the indent of a depth. -/
def newline (depth : Nat) : String := "\n" ++ String.ofList (List.replicate (2 * depth) ' ')

mutual

/-- A value over several lines, within `depth` levels of indent. -/
def writePrettyAt (depth : Nat) : Value → String
  | .arr [] => "[]"
  | .arr items => "[" ++ writePrettyItems (depth + 1) items ++ newline depth ++ "]"
  | .obj [] => "\x7b\x7d"
  | .obj fields => "\x7b" ++ writePrettyFields (depth + 1) fields ++ newline depth ++ "\x7d"
  | v => write v

/-- Items on lines of their own. -/
def writePrettyItems (depth : Nat) : List Value → String
  | [] => ""
  | [x] => newline depth ++ writePrettyAt depth x
  | x :: rest => newline depth ++ writePrettyAt depth x ++ "," ++ writePrettyItems depth rest

/-- Fields on lines of their own. -/
def writePrettyFields (depth : Nat) : List (String × Value) → String
  | [] => ""
  | [(k, x)] => newline depth ++ quote k ++ ": " ++ writePrettyAt depth x
  | (k, x) :: rest =>
    newline depth ++ quote k ++ ": " ++ writePrettyAt depth x ++ "," ++
      writePrettyFields depth rest

end

/-- A value over several lines. -/
def writePretty (v : Value) : String := writePrettyAt 0 v

end ThemedPages.Json
