import ThemedPages.Table
import ThemedPages.Time.Instant

/-!
# Themes

The records of the theme graph. A theme is a complete styling with a name and a category. A
variation is a styling derived from one theme; every section of it is its own, and only the
category comes from the theme. An assignment says which theme or variation a page uses.

A resolved theme is what a page is rendered with: the custom properties of a theme or of a
variation, and where they come from.
-/

namespace ThemedPages

/-- Values of style settings by name. -/
abbrev Styles := Table String

/-- What kind of look a theme has. -/
inductive ThemeCategory
  | light
  | dark
  | colorful
  | custom
  deriving DecidableEq, Repr

namespace ThemeCategory

/-- All categories. -/
def all : List ThemeCategory := [.light, .dark, .colorful, .custom]

/-- The word for a category. -/
def name : ThemeCategory → String
  | .light => "light"
  | .dark => "dark"
  | .colorful => "colorful"
  | .custom => "custom"

/-- The category that a word names. -/
def ofName? (s : String) : Option ThemeCategory := all.find? fun c => c.name == s

end ThemeCategory

/-- Fonts. -/
structure Typography where
  fontFamily : Option String := none
  fontSize : Option Styles := none
  fontWeight : Option Styles := none
  deriving DecidableEq

/-- Borders. -/
structure Borders where
  radius : Option Styles := none
  width : Option Styles := none
  deriving DecidableEq

/-- The sections of a styling other than its colours. -/
structure Styling where
  typography : Option Typography := none
  spacing : Option Styles := none
  shadows : Option Styles := none
  borders : Option Borders := none
  deriving DecidableEq

/-- A theme. -/
structure Theme where
  id : String
  name : String
  displayName : String
  description : Option String := none
  category : ThemeCategory
  colors : Styles
  styling : Styling := {}
  /-- A system theme is neither changed nor deleted. -/
  isSystem : Bool := false
  /-- The default theme is what pages use that have no other. -/
  isDefault : Bool := false
  author : Option String := none
  version : String := "1.0.0"
  deriving DecidableEq

/-- A styling derived from a theme. -/
structure Variation where
  id : String
  parentId : String
  name : String
  displayName : String
  /-- The page that it was made for. -/
  pageId : Option String := none
  colors : Option Styles := none
  styling : Styling := {}
  depth : UInt32
  lineage : List String := []
  createdAt : Instant
  deriving DecidableEq

/-- The part of a variation that a listing shows. -/
structure VariationSummary where
  id : String
  name : String
  displayName : String
  pageId : Option String
  createdAt : Instant
  depth : UInt32
  deriving DecidableEq

/-- The part of a variation that a listing shows. -/
def Variation.summary (v : Variation) : VariationSummary :=
  ⟨v.id, v.name, v.displayName, v.pageId, v.createdAt, v.depth⟩

/-- A theme with the variations derived from it. -/
structure ThemeListing where
  theme : Theme
  variations : List VariationSummary := []
  deriving DecidableEq

/-- Which theme or variation a page uses. -/
structure AssignmentTarget where
  /-- A theme; for a variation its parent, which only informs. -/
  themeId : String
  variationId : Option String := none
  isVariation : Bool := false
  deriving DecidableEq

/-- The assignment of a page. -/
structure Assignment where
  pageId : String
  target : AssignmentTarget
  deriving DecidableEq

/-- What a user gives for a new theme. What is required may be absent here, so that all that is
missing can be reported at once. -/
structure NewTheme where
  name : Option String := none
  displayName : Option String := none
  description : Option String := none
  category : Option ThemeCategory := none
  colors : Option Styles := none
  styling : Styling := {}
  author : Option String := none
  deriving DecidableEq

/-- A change to a theme; what is absent stays as it is. -/
structure ThemePatch where
  displayName : Option String := none
  description : Option String := none
  category : Option ThemeCategory := none
  colors : Option Styles := none
  styling : Styling := {}
  deriving DecidableEq

/-- The sections of the second styling where it has them, and else those of the first. -/
def Styling.patch (s t : Styling) : Styling where
  typography := t.typography <|> s.typography
  spacing := t.spacing <|> s.spacing
  shadows := t.shadows <|> s.shadows
  borders := t.borders <|> s.borders

/-- The theme after a change. -/
def ThemePatch.apply (p : ThemePatch) (t : Theme) : Theme :=
  { t with
    displayName := p.displayName.getD t.displayName
    description := p.description <|> t.description
    category := p.category.getD t.category
    colors := p.colors.getD t.colors
    styling := t.styling.patch p.styling }

/-- What a user gives for a new variation. -/
structure NewVariation where
  /-- The name before the time of creation is added to it. -/
  name : String
  displayName : Option String := none
  pageId : Option String := none
  colors : Option Styles := none
  styling : Styling := {}
  deriving DecidableEq

/-- A theme as it is handed to a store, which gives it an id. -/
structure ThemeDraft where
  name : String
  displayName : String
  description : Option String := none
  category : ThemeCategory
  colors : Styles
  styling : Styling := {}
  author : Option String := none
  isSystem : Bool := false
  isDefault : Bool := false
  deriving DecidableEq

/-- The theme that a draft becomes. -/
def ThemeDraft.toTheme (d : ThemeDraft) (id : String) : Theme :=
  { id, name := d.name, displayName := d.displayName, description := d.description,
    category := d.category, colors := d.colors, styling := d.styling, isSystem := d.isSystem,
    isDefault := d.isDefault, author := d.author }

/-- A variation as it is handed to a store, which gives it an id. -/
structure VariationDraft where
  name : String
  displayName : String
  pageId : Option String := none
  colors : Option Styles := none
  styling : Styling := {}
  depth : UInt32
  lineage : List String := []
  createdAt : Instant
  deriving DecidableEq

/-- The variation of a theme that a draft becomes. -/
def VariationDraft.toVariation (d : VariationDraft) (id parentId : String) : Variation :=
  { id, parentId, name := d.name, displayName := d.displayName, pageId := d.pageId,
    colors := d.colors, styling := d.styling, depth := d.depth, lineage := d.lineage,
    createdAt := d.createdAt }

/-- The identity of a resolved theme. Ids of themes and of variations are apart. -/
inductive ThemeKey
  | theme (id : String)
  | variation (id : String)
  deriving DecidableEq, Repr

namespace ThemeKey

/-- The id of the record. -/
def id : ThemeKey → String
  | .theme id => id
  | .variation id => id

/-- The key in a text. -/
def text : ThemeKey → String
  | .theme id => "theme:" ++ id
  | .variation id => "variation:" ++ id

end ThemeKey

/-- What a resolved theme comes from. -/
inductive ThemeOrigin
  | theme
  | variation
  deriving DecidableEq, Repr

/-- What a page is rendered with. -/
structure ResolvedTheme where
  id : String
  name : String
  displayName : String
  category : ThemeCategory
  /-- Custom properties, such as `--color-primary`. -/
  properties : Styles
  origin : ThemeOrigin
  parentId : Option String := none
  deriving DecidableEq

/-- Whether it comes from a variation. -/
def ResolvedTheme.isVariation (t : ResolvedTheme) : Bool := t.origin == .variation

end ThemedPages
