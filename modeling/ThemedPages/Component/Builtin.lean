import ThemedPages.Component.Registry
import ThemedPages.Json.Writer
import ThemedPages.Text.Html

/-!
# Builtin components

The component types that every page has: headings, texts, cards, metrics and lists. Each takes
what it shows from the properties, and fails if a required property is missing or is no text.
-/

namespace ThemedPages.Builtin

open Text.Html (escape)

/-- The failure of a component without a required property. -/
def missing (key : String) : Failure :=
  .validation (.single [.field "props", .field key] "missing required prop")

/-- A text among the properties. -/
def text? (props : Props) (key : String) : Option String := (props.get? key).bind Value.text?

/-- A required text among the properties. -/
def requiredText (props : Props) (key : String) : Except Failure String :=
  match text? props key with
  | some s => .ok s
  | none => .error (missing key)

/-- The level of a heading: 2 unless a natural number says otherwise, and from 1 to 6. -/
def level (props : Props) : Nat :=
  match props.get? "level" with
  | some (.num (.int i)) => if 0 ≤ i then min (max i.toNat 1) 6 else 2
  | _ => 2

/-- A heading. -/
def heading : ComponentType := fun props ctx => do
  let text ← requiredText props "text"
  let n := toString (level props)
  return "<h" ++ n ++ " id=\"" ++ escape ctx.component ++ "\">" ++ escape text ++ "</h" ++ n ++ ">"

/-- A paragraph. -/
def paragraph : ComponentType := fun props _ => do
  return "<p>" ++ escape (← requiredText props "text") ++ "</p>"

/-- A card with a title, which names the theme of its page. -/
def card : ComponentType := fun props ctx => do
  let title ← requiredText props "title"
  let body := (text? props "body").getD ""
  let theme := (ctx.theme.map ResolvedTheme.name).getD "none"
  return "<article class=\"card\" data-theme=\"" ++ escape theme ++ "\"><h3>" ++ escape title ++
    "</h3><p>" ++ escape body ++ "</p></article>"

/-- The text of a text, or of a number. -/
def shown? : Value → Option String
  | .str s => some s
  | .num n => some (Json.writeNumber n)
  | _ => none

/-- A value with a label, and a unit if there is one. -/
def metric : ComponentType := fun props _ => do
  let label ← requiredText props "label"
  let some value := (props.get? "value").bind shown? | throw (missing "value")
  let unit := match text? props "unit" with
    | some u => " <small>" ++ escape u ++ "</small>"
    | none => ""
  return "<div class=\"metric\"><span>" ++ escape label ++ "</span><strong>" ++ escape value ++
    unit ++ "</strong></div>"

/-- An item of a list: a text as it stands, and any other value as JSON. -/
def item (v : Value) : String :=
  "<li>" ++ escape (match v with
    | .str s => s
    | v => Json.write v) ++ "</li>"

/-- A list. -/
def list : ComponentType := fun props _ => do
  let some items := (props.get? "items").bind Value.items? | throw (missing "items")
  return "<ul>" ++ String.join (items.map item) ++ "</ul>"

/-- The builtin component types by name. -/
def all : List (String × ComponentType) :=
  [("heading", heading), ("text", paragraph), ("card", card), ("metric", metric), ("list", list)]

end ThemedPages.Builtin

namespace ThemedPages

/-- Give a page the builtin component types. -/
def ComponentRegistry.registerBuiltins (r : ComponentRegistry) (page : String) :
    ComponentRegistry :=
  Builtin.all.foldl (fun r c => r.register page c.1 c.2) r

end ThemedPages
