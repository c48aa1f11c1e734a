/-!
# Style elements

A style element is a named piece of a stylesheet: rules, each of a selector and declarations.
-/

namespace ThemedPages

/-- A selector and its declarations. -/
structure StyleRule where
  selector : String
  /-- Names and values. -/
  declarations : List (String × String)
  deriving DecidableEq, Repr

/-- A named piece of a stylesheet. -/
structure StyleElement where
  id : String
  rules : List StyleRule
  deriving DecidableEq, Repr

/-- A declaration on a line of its own. -/
def writeDeclaration (d : String × String) : String := "  " ++ d.1 ++ ": " ++ d.2 ++ ";\n"

/-- A rule as stylesheet text. -/
def StyleRule.css (r : StyleRule) : String :=
  r.selector ++ " \x7b\n" ++ String.join (r.declarations.map writeDeclaration) ++ "\x7d\n"

/-- An element as stylesheet text. -/
def StyleElement.css (e : StyleElement) : String := String.join (e.rules.map StyleRule.css)

/-- Elements as one stylesheet, each after a comment with its id. -/
def stylesheet (elements : List StyleElement) : String :=
  String.join (elements.map fun e => "/* " ++ e.id ++ " */\n" ++ e.css)

end ThemedPages
