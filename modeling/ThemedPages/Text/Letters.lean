/-!
# Letters

Text that comes as bytes, of which some may be no text. Characters are read from their bytes as
UTF-8 lays them out; a byte with which no character starts stands for itself, and is known only as
what is no character. What is well formed reads as its characters (`letters`).
-/

namespace ThemedPages.Text

/-- A character, or nothing for a byte that belongs to none. -/
abbrev Letter := Option Char

/-- The letters of a text. -/
def letters (s : String) : List Letter := s.toList.map some

/-- The character that bytes start with. -/
def firstChar? (bytes : List UInt8) : Option Char := (bytes.take 4).toByteArray.utf8DecodeChar? 0

/-- The letters of bytes. -/
def lettersOfBytes : List UInt8 → List Letter
  | [] => []
  | b :: rest =>
    match firstChar? (b :: rest) with
    | some c => some c :: lettersOfBytes (rest.drop (c.utf8Size - 1))
    | none => none :: lettersOfBytes rest
termination_by bytes => bytes.length
decreasing_by all_goals simp only [List.length_drop, List.length_cons]; omega

end ThemedPages.Text
