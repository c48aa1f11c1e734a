import ThemedPages.Decimal.Layout
import ThemedPages.Document.Record
import ThemedPages.Document.Shape
import ThemedPages.Theme.Basic

/-!
# Themes in documents

How the records of the theme graph stand in a document. Style settings may be given as numbers or
booleans, and are kept as text. Of a record that is kept, absent sections are left out; in what a
user hands in they are null.
-/

namespace ThemedPages

open Record

/-! ## Style settings -/

/-- The text of a style setting. Integers beyond 64 bits with a sign are numbers like all others,
which are written without a power of ten. -/
def settingText? : Value → Option String
  | .str s => some s
  | .bool b => some (if b then "true" else "false")
  | .num (.int i) =>
    if Int64.minValue.toInt ≤ i && i ≤ Int64.maxValue.toInt then some (Decimal.writeInt i)
    else (Binary64.ofRatio? (i < 0) i.natAbs 1).map (Decimal.write .plain)
  | .num (.float x) => some (Decimal.write .plain x)
  | _ => none

/-- Read style settings. -/
def stylesOfValue? : Value → Option Styles
  | .obj fields =>
    (fields.mapM fun f => (settingText? f.2).map fun s => (f.1, s)).map Table.ofList
  | _ => none

/-- Style settings are all read, whatever their names. -/
def stylesShape : Shape := .openRecord []

/-! ## Sections -/

/-- Font settings as a value. -/
def Typography.toValue (t : Typography) : Value :=
  .obj <| given? "fontFamily" .str t.fontFamily ++ given? "fontSize" .ofTexts t.fontSize ++
    given? "fontWeight" .ofTexts t.fontWeight

/-- Read font settings. -/
def Typography.ofValue? (v : Value) : Option Typography := do
  let f ← fields? ["fontFamily", "fontSize", "fontWeight"] v
  return {
    fontFamily := ← optional f "fontFamily" text
    fontSize := ← optional f "fontSize" stylesOfValue?
    fontWeight := ← optional f "fontWeight" stylesOfValue? }

/-- The parts that font settings are read from. -/
def Typography.shape : Shape :=
  .record [("fontFamily", .optional .text), ("fontSize", .optional stylesShape),
    ("fontWeight", .optional stylesShape)]

/-- Border settings as a value. -/
def Borders.toValue (b : Borders) : Value :=
  .obj <| given? "radius" .ofTexts b.radius ++ given? "width" .ofTexts b.width

/-- Read border settings. -/
def Borders.ofValue? (v : Value) : Option Borders := do
  let f ← fields? ["radius", "width"] v
  return {
    radius := ← optional f "radius" stylesOfValue?
    width := ← optional f "width" stylesOfValue? }

/-- The parts that border settings are read from. -/
def Borders.shape : Shape :=
  .record [("radius", .optional stylesShape), ("width", .optional stylesShape)]

/-- The fields of a styling, without the absent ones. -/
def Styling.givenFields (s : Styling) : List (String × Value) :=
  given? "typography" Typography.toValue s.typography ++ given? "spacing" .ofTexts s.spacing ++
    given? "shadows" .ofTexts s.shadows ++ given? "borders" Borders.toValue s.borders

/-- The fields of a styling, absent ones as null. -/
def Styling.allFields (s : Styling) : List (String × Value) :=
  orNull "typography" Typography.toValue s.typography ++ orNull "spacing" .ofTexts s.spacing ++
    orNull "shadows" .ofTexts s.shadows ++ orNull "borders" Borders.toValue s.borders

/-- The names of a styling's fields. -/
def Styling.fieldNames : List String := ["typography", "spacing", "shadows", "borders"]

/-- Read a styling from the fields of a record. -/
def Styling.ofFields? (f : List (String × Value)) : Option Styling := do
  return {
    typography := ← optional f "typography" Typography.ofValue?
    spacing := ← optional f "spacing" stylesOfValue?
    shadows := ← optional f "shadows" stylesOfValue?
    borders := ← optional f "borders" Borders.ofValue? }

/-- The parts that colours and a styling are read from. -/
def Styling.fieldShapes : List (String × Shape) :=
  [("colors", .optional stylesShape), ("typography", .optional Typography.shape),
    ("spacing", .optional stylesShape), ("shadows", .optional stylesShape),
    ("borders", .optional Borders.shape)]

/-! ## Themes -/

/-- A category as a value. -/
def ThemeCategory.toValue (c : ThemeCategory) : Value := .str c.name

/-- Read a category. -/
def ThemeCategory.ofValue? : Value → Option ThemeCategory := word ThemeCategory.ofName?

/-- A category is read as it stands. -/
def ThemeCategory.shape : Shape := .whole

/-- The fields of a theme. -/
def Theme.toFields (t : Theme) : List (String × Value) :=
  [("id", .str t.id), ("name", .str t.name), ("display_name", .str t.displayName)] ++
    given? "description" .str t.description ++
    [("category", t.category.toValue), ("colors", .ofTexts t.colors)] ++ t.styling.givenFields ++
    [("is_system", .bool t.isSystem), ("is_default", .bool t.isDefault)] ++
    given? "author" .str t.author ++ [("version", .str t.version)]

/-- A theme as a value. -/
def Theme.toValue (t : Theme) : Value := .obj t.toFields

/-- The names of a theme's fields. -/
def Theme.fieldNames : List String :=
  ["id", "name", "display_name", "description", "category", "colors"] ++ Styling.fieldNames ++
    ["is_system", "is_default", "author", "version"]

/-- Read a theme from its fields; `category?` reads its category. -/
def Theme.ofFields? (category? : Value → Option ThemeCategory) (f : List (String × Value)) :
    Option Theme := do
  return {
    id := ← required f "id" text
    name := ← required f "name" text
    displayName := ← required f "display_name" text
    description := ← optional f "description" text
    category := ← required f "category" category?
    colors := ← required f "colors" stylesOfValue?
    styling := ← Styling.ofFields? f
    isSystem := ← withDefault f "is_system" flag false
    isDefault := ← withDefault f "is_default" flag false
    author := ← optional f "author" text
    version := ← withDefault f "version" text "1.0.0" }

/-- Read a theme. -/
def Theme.ofValue? (v : Value) : Option Theme := do
  Theme.ofFields? ThemeCategory.ofValue? (← fields? Theme.fieldNames v)

/-- The parts that a theme is read from, in the order of its fields. -/
def Theme.fieldShapes : List (String × Shape) :=
  [("id", .text), ("name", .text), ("display_name", .text), ("description", .optional .text),
    ("category", ThemeCategory.shape)] ++ Styling.fieldShapes ++
    [("is_system", .flag), ("is_default", .flag), ("author", .optional .text), ("version", .text)]

/-- The parts that a theme is read from. -/
def Theme.shape : Shape := .record Theme.fieldShapes

/-! ## Variations -/

/-- A variation as a value. -/
def Variation.toValue (v : Variation) : Value :=
  .obj <| [("id", .str v.id), ("parent_theme_id", .str v.parentId), ("name", .str v.name),
      ("display_name", .str v.displayName)] ++
    given? "page_id" .str v.pageId ++ given? "colors" .ofTexts v.colors ++
    v.styling.givenFields ++
    [("variation_depth", .ofNat v.depth.toNat), ("lineage_path", .arr (v.lineage.map .str)),
      ("created_at", .str v.createdAt.toText)]

/-- Read a variation. -/
def Variation.ofValue? (v : Value) : Option Variation := do
  let f ← fields? (["id", "parent_theme_id", "name", "display_name", "page_id", "colors"] ++
    Styling.fieldNames ++ ["variation_depth", "lineage_path", "created_at"]) v
  return {
    id := ← required f "id" text
    parentId := ← required f "parent_theme_id" text
    name := ← required f "name" text
    displayName := ← required f "display_name" text
    pageId := ← optional f "page_id" text
    colors := ← optional f "colors" stylesOfValue?
    styling := ← Styling.ofFields? f
    depth := ← required f "variation_depth" word32
    lineage := ← withDefault f "lineage_path" (list text) []
    createdAt := ← required f "created_at" instant }

/-- The parts that a variation is read from. -/
def Variation.shape : Shape :=
  .record <| [("id", .text), ("parent_theme_id", .text), ("name", .text),
      ("display_name", .text), ("page_id", .optional .text)] ++ Styling.fieldShapes ++
    [("variation_depth", .natural), ("lineage_path", .list .text), ("created_at", .text)]

/-- The summary of a variation as a value. -/
def VariationSummary.toValue (s : VariationSummary) : Value :=
  .obj [("id", .str s.id), ("name", .str s.name), ("displayName", .str s.displayName),
    ("pageId", .ofText? s.pageId), ("createdAt", .str s.createdAt.toText),
    ("variationDepth", .ofNat s.depth.toNat)]

/-- Read the summary of a variation. -/
def VariationSummary.ofValue? (v : Value) : Option VariationSummary := do
  let f ← fields? ["id", "name", "displayName", "pageId", "createdAt", "variationDepth"] v
  return {
    id := ← required f "id" text
    name := ← required f "name" text
    displayName := ← required f "displayName" text
    pageId := ← optional f "pageId" text
    createdAt := ← required f "createdAt" instant
    depth := ← required f "variationDepth" word32 }

/-- The parts that the summary of a variation is read from. -/
def VariationSummary.shape : Shape :=
  .record [("id", .text), ("name", .text), ("displayName", .text), ("pageId", .optional .text),
    ("createdAt", .text), ("variationDepth", .natural)]

/-- A listing as a value: the fields of the theme, and its variations if it has any. -/
def ThemeListing.toValue (l : ThemeListing) : Value :=
  .obj (l.theme.toFields ++ nonEmpty "variations" VariationSummary.toValue l.variations)

/-- Read a listing, which is always an object. The fields of its theme are read in a second pass,
for which an empty object counts as null under a category. -/
def ThemeListing.ofValue? : Value → Option ThemeListing
  | .obj fields => do
    let f ← fields? ["variations"] (.obj fields)
    return {
      theme := ← Theme.ofFields? (looseWord ThemeCategory.ofName?)
        (← fields? Theme.fieldNames (.obj fields))
      variations := ← withDefault f "variations" (list VariationSummary.ofValue?) [] }
  | _ => none

/-- The parts that a listing is read from: all of it, but of its variations only their parts. -/
def ThemeListing.shape : Shape := .openRecord [("variations", .list VariationSummary.shape)]

/-! ## Assignments -/

/-- An assignment as a value. -/
def Assignment.toValue (a : Assignment) : Value :=
  .obj <| [("page_id", .str a.pageId), ("theme_id", .str a.target.themeId)] ++
    given? "theme_variation_id" .str a.target.variationId ++
    [("is_variation", .bool a.target.isVariation)]

/-- Read an assignment. -/
def Assignment.ofValue? (v : Value) : Option Assignment := do
  let f ← fields? ["page_id", "theme_id", "theme_variation_id", "is_variation"] v
  return {
    pageId := ← required f "page_id" text
    target := {
      themeId := ← required f "theme_id" text
      variationId := ← optional f "theme_variation_id" text
      isVariation := ← withDefault f "is_variation" flag false } }

/-- The parts that an assignment is read from. -/
def Assignment.shape : Shape :=
  .record [("page_id", .text), ("theme_id", .text), ("theme_variation_id", .optional .text),
    ("is_variation", .flag)]

/-! ## What a user hands in -/

/-- A new theme as a value. -/
def NewTheme.toValue (t : NewTheme) : Value :=
  .obj <| orNull "name" .str t.name ++ orNull "display_name" .str t.displayName ++
    orNull "description" .str t.description ++ orNull "category" ThemeCategory.toValue t.category ++
    orNull "colors" .ofTexts t.colors ++ t.styling.allFields ++ orNull "author" .str t.author

/-- Read a new theme. -/
def NewTheme.ofValue? (v : Value) : Option NewTheme := do
  let f ← fields? (["name", "display_name", "description", "category", "colors"] ++
    Styling.fieldNames ++ ["author"]) v
  return {
    name := ← optional f "name" text
    displayName := ← optional f "display_name" text
    description := ← optional f "description" text
    category := ← optional f "category" ThemeCategory.ofValue?
    colors := ← optional f "colors" stylesOfValue?
    styling := ← Styling.ofFields? f
    author := ← optional f "author" text }

/-- The parts that a new theme is read from. -/
def NewTheme.shape : Shape :=
  .record <| [("name", .optional .text), ("display_name", .optional .text),
      ("description", .optional .text), ("category", ThemeCategory.shape)] ++
    Styling.fieldShapes ++ [("author", .optional .text)]

/-- A change to a theme as a value. -/
def ThemePatch.toValue (p : ThemePatch) : Value :=
  .obj <| orNull "display_name" .str p.displayName ++ orNull "description" .str p.description ++
    orNull "category" ThemeCategory.toValue p.category ++ orNull "colors" .ofTexts p.colors ++
    p.styling.allFields

/-- Read a change to a theme. -/
def ThemePatch.ofValue? (v : Value) : Option ThemePatch := do
  let f ← fields? (["display_name", "description", "category", "colors"] ++ Styling.fieldNames) v
  return {
    displayName := ← optional f "display_name" text
    description := ← optional f "description" text
    category := ← optional f "category" ThemeCategory.ofValue?
    colors := ← optional f "colors" stylesOfValue?
    styling := ← Styling.ofFields? f }

/-- The parts that a change to a theme is read from. -/
def ThemePatch.shape : Shape :=
  .record <| [("display_name", .optional .text), ("description", .optional .text),
    ("category", ThemeCategory.shape)] ++ Styling.fieldShapes

/-- A new variation as a value. -/
def NewVariation.toValue (v : NewVariation) : Value :=
  .obj <| [("name", .str v.name)] ++ orNull "display_name" .str v.displayName ++
    orNull "page_id" .str v.pageId ++ orNull "colors" .ofTexts v.colors ++ v.styling.allFields

/-- Read a new variation. -/
def NewVariation.ofValue? (v : Value) : Option NewVariation := do
  let f ← fields? (["name", "display_name", "page_id", "colors"] ++ Styling.fieldNames) v
  return {
    name := ← required f "name" text
    displayName := ← optional f "display_name" text
    pageId := ← optional f "page_id" text
    colors := ← optional f "colors" stylesOfValue?
    styling := ← Styling.ofFields? f }

/-- The parts that a new variation is read from. -/
def NewVariation.shape : Shape :=
  .record <| [("name", .text), ("display_name", .optional .text),
    ("page_id", .optional .text)] ++ Styling.fieldShapes

/-! ## Drafts -/

/-- Read the draft of a theme. Absent names are empty. -/
def ThemeDraft.ofValue? (v : Value) : Option ThemeDraft := do
  let f ← fields? (["name", "display_name", "description", "category", "colors"] ++
    Styling.fieldNames ++ ["author", "is_system", "is_default"]) v
  return {
    name := (← optional f "name" text).getD ""
    displayName := (← optional f "display_name" text).getD ""
    description := ← optional f "description" text
    category := ← required f "category" ThemeCategory.ofValue?
    colors := ← required f "colors" stylesOfValue?
    styling := ← Styling.ofFields? f
    author := ← optional f "author" text
    isSystem := (← optional f "is_system" flag).getD false
    isDefault := (← optional f "is_default" flag).getD false }

/-- Read the draft of a variation. Absent names are empty, and without a depth it is one. -/
def VariationDraft.ofValue? (v : Value) : Option VariationDraft := do
  let f ← fields? (["name", "display_name", "page_id", "colors"] ++ Styling.fieldNames ++
    ["variation_depth", "lineage_path", "created_at"]) v
  return {
    name := (← optional f "name" text).getD ""
    displayName := (← optional f "display_name" text).getD ""
    pageId := ← optional f "page_id" text
    colors := ← optional f "colors" stylesOfValue?
    styling := ← Styling.ofFields? f
    depth := (← optional f "variation_depth" word32).getD 1
    lineage := (← optional f "lineage_path" (list text)).getD []
    createdAt := ← required f "created_at" instant }

/-! ## Resolved themes -/

/-- An origin as a value. -/
def ThemeOrigin.toValue : ThemeOrigin → Value
  | .theme => .str "theme"
  | .variation => .str "variation"

/-- Read an origin. -/
def ThemeOrigin.ofValue? : Value → Option ThemeOrigin := word fun
  | "theme" => some .theme
  | "variation" => some .variation
  | _ => none

/-- A resolved theme as a value. -/
def ResolvedTheme.toValue (t : ResolvedTheme) : Value :=
  .obj <| [("id", .str t.id), ("name", .str t.name), ("displayName", .str t.displayName),
      ("category", t.category.toValue), ("cssProperties", .ofTexts t.properties),
      ("type", t.origin.toValue)] ++
    given? "parentThemeId" .str t.parentId

/-- Read a resolved theme. -/
def ResolvedTheme.ofValue? (v : Value) : Option ResolvedTheme := do
  let f ← fields?
    ["id", "name", "displayName", "category", "cssProperties", "type", "parentThemeId"] v
  return {
    id := ← required f "id" text
    name := ← required f "name" text
    displayName := ← required f "displayName" text
    category := ← required f "category" ThemeCategory.ofValue?
    properties := ← required f "cssProperties" texts
    origin := ← required f "type" ThemeOrigin.ofValue?
    parentId := ← optional f "parentThemeId" text }

/-- The parts that a resolved theme is read from. -/
def ResolvedTheme.shape : Shape :=
  .record [("id", .text), ("name", .text), ("displayName", .text),
    ("category", ThemeCategory.shape), ("cssProperties", stylesShape), ("type", .whole),
    ("parentThemeId", .optional .text)]

end ThemedPages
