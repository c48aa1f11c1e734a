import ThemedPages.Theme.Response
import ThemedPages.Theme.Basic

/-!
# Theme stores

What a place that keeps the theme graph can be asked. Each request gives an answer and the store
afterwards. A request fails when the store cannot be reached or makes no sense; whether a change
was done is said by its response.
-/

namespace ThemedPages

/-- Which themes to list. -/
structure ThemeFilter where
  category : Option ThemeCategory := none
  /-- Whether to list themes that are not system themes. -/
  includeCustom : Bool := false
  /-- Whether to list the variations of each theme. -/
  includeVariations : Bool := false
  deriving DecidableEq

/-- All themes with all variations. -/
def ThemeFilter.all : ThemeFilter := { includeCustom := true, includeVariations := true }

/-- Whether a theme is listed. -/
def ThemeFilter.accepts (f : ThemeFilter) (t : Theme) : Bool :=
  f.category.all (· == t.category) && (f.includeCustom || t.isSystem)

/-- Which variations to list. -/
structure VariationFilter where
  parentId : Option String := none
  pageId : Option String := none
  deriving DecidableEq

/-- Whether a variation is listed. -/
def VariationFilter.accepts (f : VariationFilter) (v : Variation) : Bool :=
  f.parentId.all (· == v.parentId) && f.pageId.all (v.pageId == some ·)

/-- The answer to a request. -/
abbrev Answer := Except Failure

/-- A place that keeps the theme graph. -/
class ThemeStore (σ : Type) where
  listThemes (filter : ThemeFilter) : StateM σ (Answer (List ThemeListing))
  getTheme (id : String) : StateM σ (Answer (Option Theme))
  getDefaultTheme : StateM σ (Answer (Option Theme))
  createTheme (draft : ThemeDraft) : StateM σ (Answer (StoreResponse Theme))
  updateTheme (id : String) (patch : ThemePatch) : StateM σ (Answer (StoreResponse Theme))
  deleteTheme (id : String) : StateM σ (Answer (StoreResponse Unit))
  /-- Make a theme the only default theme. -/
  setDefaultTheme (id : String) : StateM σ (Answer (StoreResponse Theme))
  listVariations (filter : VariationFilter) : StateM σ (Answer (List Variation))
  getVariation (id : String) : StateM σ (Answer (Option Variation))
  createVariation (parentId : String) (draft : VariationDraft) :
    StateM σ (Answer (StoreResponse Variation))
  getAssignment (page : String) : StateM σ (Answer (Option Assignment))
  /-- Set the one assignment of a page. -/
  assign (page : String) (target : AssignmentTarget) :
    StateM σ (Answer (StoreResponse Assignment))
  deleteAssignment (page : String) : StateM σ (Answer (StoreResponse Unit))

end ThemedPages
