import ThemedPages.Theme.Basic

/-!
# Custom properties of a styling

Each setting of a styling is one custom property, named after its section and its own name. An
absent section gives none. Where two settings give the same property the later section counts:
colours, fonts, spacing, shadows, borders.
-/

namespace ThemedPages

/-- The settings of a section as properties that start with `start`. -/
def sectionProperties (start : String) (section? : Option Styles) : List (String × String) :=
  match section? with
  | none => []
  | some s => s.entries.map fun r => (start ++ r.1, r.2)

/-- The font settings as properties. -/
def Typography.properties (t : Typography) : List (String × String) :=
  (t.fontFamily.toList.map fun family => ("--font-family", family)) ++
    sectionProperties "--font-size-" t.fontSize ++ sectionProperties "--font-weight-" t.fontWeight

/-- The border settings as properties. -/
def Borders.properties (b : Borders) : List (String × String) :=
  sectionProperties "--radius-" b.radius ++ sectionProperties "--border-width-" b.width

/-- The custom properties of a styling with some colours. -/
def Styling.properties (colors : Option Styles) (s : Styling) : Styles :=
  Table.ofList <| sectionProperties "--color-" colors ++
    (s.typography.map Typography.properties).getD [] ++
    sectionProperties "--spacing-" s.spacing ++ sectionProperties "--shadow-" s.shadows ++
    (s.borders.map Borders.properties).getD []

/-- A theme as what a page is rendered with. -/
def Theme.resolved (t : Theme) : ResolvedTheme where
  id := t.id
  name := t.name
  displayName := t.displayName
  category := t.category
  properties := t.styling.properties (some t.colors)
  origin := .theme

/-- A variation as what a page is rendered with; the category is that of its theme. -/
def Variation.resolved (v : Variation) (category : ThemeCategory) : ResolvedTheme where
  id := v.id
  name := v.name
  displayName := v.displayName
  category := category
  properties := v.styling.properties v.colors
  origin := .variation
  parentId := some v.parentId

end ThemedPages
