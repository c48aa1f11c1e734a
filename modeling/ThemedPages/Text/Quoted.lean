import ThemedPages.Text.Hidden

/-!
# Quoted text

Text within double quotes, with quotes and backslashes escaped, and every character that has no
glyph of its own written as an escape.
-/

namespace ThemedPages.Text.Quoted

/-- The written form of one character. -/
def encodeChar (c : Char) : List Char :=
  match c with
  | '\x00' => ['\\', '0']
  | '\t' => ['\\', 't']
  | '\r' => ['\\', 'r']
  | '\n' => ['\\', 'n']
  | '"' => ['\\', '"']
  | '\\' => ['\\', '\\']
  | c =>
    if isHidden c then '\\' :: 'u' :: '\x7b' :: Nat.toDigits 16 c.toNat ++ ['\x7d']
    else [c]

/-- A text within quotes. -/
def encode (s : String) : String := String.ofList ('"' :: s.toList.flatMap encodeChar ++ ['"'])

/-- Texts parted by commas. -/
def listed (items : List String) : String := ", ".intercalate items

/-- A list in brackets. -/
def bracketed (items : List String) : String := "[" ++ listed items ++ "]"

/-- A list in braces. -/
def braced (items : List String) : String := "\x7b" ++ listed items ++ "\x7d"

end ThemedPages.Text.Quoted
