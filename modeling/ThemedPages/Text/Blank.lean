/-!
# Blank text

The characters with Unicode's `White_Space` property, and the text left when they are cut off
both ends.
-/

namespace ThemedPages.Text

/-- The characters with the property `White_Space`. -/
def isBlank (c : Char) : Bool :=
  let n := c.toNat
  (0x09 ≤ n && n ≤ 0x0D) || n == 0x20 || n == 0x85 || n == 0xA0 || n == 0x1680 ||
    (0x2000 ≤ n && n ≤ 0x200A) || n == 0x2028 || n == 0x2029 || n == 0x202F || n == 0x205F ||
    n == 0x3000

/-- Whether a text has no character but blank ones. -/
def blank (s : String) : Bool := s.toList.all isBlank

/-- The characters with the blank ones at the start cut off. -/
def trimStart (cs : List Char) : List Char := cs.dropWhile isBlank

/-- The text with the blank characters at both ends cut off. -/
def trim (s : String) : String :=
  String.ofList (trimStart (trimStart s.toList).reverse).reverse

end ThemedPages.Text
