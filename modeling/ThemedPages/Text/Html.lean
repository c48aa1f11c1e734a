/-!
# Text in markup

`escape` makes any text safe as element content and inside a double-quoted attribute: the five
characters that markup gives a meaning are written as character references.
-/

namespace ThemedPages.Text.Html

/-- The written form of one character. -/
def escapeChar (c : Char) : List Char :=
  match c with
  | '&' => "&amp;".toList
  | '<' => "&lt;".toList
  | '>' => "&gt;".toList
  | '"' => "&quot;".toList
  | '\'' => "&#39;".toList
  | c => [c]

/-- The text with every character that markup interprets written as a reference. -/
def escape (s : String) : String := String.ofList (s.toList.flatMap escapeChar)

theorem toList_escape (s : String) : (escape s).toList = s.toList.flatMap escapeChar :=
  String.toList_ofList

theorem escape_append (s t : String) : escape (s ++ t) = escape s ++ escape t := by
  apply String.toList_inj.1
  simp [toList_escape, String.toList_append]

end ThemedPages.Text.Html
