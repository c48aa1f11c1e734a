import ThemedPages.Theme.Store.Basic

/-!
# The theme graph in memory

A store of three tables: themes and variations by id, and one assignment per page. Names of themes
are distinct, and names of variations are; a variation belongs to a theme that is there; one theme
is the default. Deleting a theme takes its variations along, but leaves assignments to it.

A record gets the first id with a number above the last one given that no record has.
-/

namespace ThemedPages

/-- The theme graph. -/
structure MemoryStore where
  themes : Table Theme := .empty
  variations : Table Variation := .empty
  /-- Assignments by page. -/
  assignments : Table Assignment := .empty
  /-- The number in the id that was given last. -/
  lastNumber : Nat := 0
  /-- Whether every request fails. -/
  offline : Bool := false
  deriving DecidableEq

namespace MemoryStore

/-! ## Ids -/

/-- Whether a theme or a variation has an id. -/
def hasId (s : MemoryStore) (id : String) : Bool := s.themes.contains id || s.variations.contains id

/-- The id of a kind of record with a number. -/
def numberedId (kind : String) (n : Nat) : String := kind ++ "-" ++ toString n

/-- The first number above `n` whose id is free, among the next `tries`. -/
def freeNumber (s : MemoryStore) (kind : String) : (tries : Nat) → (n : Nat) → Nat
  | 0, n => n + 1
  | tries + 1, n =>
    if s.hasId (numberedId kind (n + 1)) then s.freeNumber kind tries (n + 1) else n + 1

/-- The number of a new record. As many ids as there are records may be taken. -/
def freshNumber (s : MemoryStore) (kind : String) : Nat :=
  s.freeNumber kind (s.themes.size + s.variations.size) s.lastNumber

/-! ## Reading -/

/-- Order of listings: system themes first, then by name. -/
def listsBefore (a b : ThemeListing) : Bool :=
  (a.theme.isSystem && !b.theme.isSystem) ||
    (a.theme.isSystem == b.theme.isSystem && a.theme.name ≤ b.theme.name)

/-- The listing of a theme. -/
def listing (s : MemoryStore) (filter : ThemeFilter) (t : Theme) : ThemeListing where
  theme := t
  variations :=
    if filter.includeVariations then
      (s.variations.values.filter fun v => v.parentId == t.id).map Variation.summary
    else []

/-- The listings that a filter asks for. -/
def listings (s : MemoryStore) (filter : ThemeFilter) : List ThemeListing :=
  ((s.themes.values.filter filter.accepts).map (s.listing filter)).mergeSort listsBefore

/-- The default theme. -/
def defaultTheme? (s : MemoryStore) : Option Theme := s.themes.values.find? Theme.isDefault

/-- Order of variations: the latest first, then by id. -/
def variationBefore (a b : Variation) : Bool :=
  b.createdAt.before a.createdAt || (a.createdAt == b.createdAt && a.id ≤ b.id)

/-- The variations that a filter asks for. -/
def variationList (s : MemoryStore) (filter : VariationFilter) : List Variation :=
  (s.variations.values.filter filter.accepts).mergeSort variationBefore

/-! ## Changes -/

/-- Add a theme. A new default theme takes the place of the old one. -/
def createTheme (s : MemoryStore) (d : ThemeDraft) : StoreResponse Theme × MemoryStore :=
  if s.themes.values.any fun t => t.name == d.name then
    (.fail (.conflict ("theme name '" ++ d.name ++ "' already exists")), s)
  else
    let others := if d.isDefault then s.themes.map fun t => { t with isDefault := false }
      else s.themes
    let number := s.freshNumber "theme"
    let t := d.toTheme (numberedId "theme" number)
    (.ok t, { s with themes := others.insert t.id t, lastNumber := number })

/-- Change a theme that is not a system theme. -/
def updateTheme (s : MemoryStore) (id : String) (p : ThemePatch) :
    StoreResponse Theme × MemoryStore :=
  match s.themes.get? id with
  | none => (.fail (.notFound .theme id), s)
  | some t =>
    if t.isSystem then (.fail (.conflict "cannot modify system themes"), s)
    else (.ok (p.apply t), { s with themes := s.themes.insert id (p.apply t) })

/-- Delete a theme that is neither a system theme nor the default, and its variations. -/
def deleteTheme (s : MemoryStore) (id : String) : StoreResponse Unit × MemoryStore :=
  match s.themes.get? id with
  | none => (.fail (.notFound .theme id), s)
  | some t =>
    if t.isSystem then (.fail (.conflict "cannot delete system themes"), s)
    else if t.isDefault then (.fail (.conflict "cannot delete the default theme"), s)
    else
      (.ok (), { s with
        themes := s.themes.erase id
        variations := s.variations.filter fun _ v => v.parentId != id })

/-- Make a theme the only default theme. -/
def setDefaultTheme (s : MemoryStore) (id : String) : StoreResponse Theme × MemoryStore :=
  let themes := s.themes.map fun t => { t with isDefault := t.id == id }
  match themes.get? id with
  | none => (.fail (.notFound .theme id), s)
  | some t => (.ok t, { s with themes })

/-- Add a variation of a theme. -/
def createVariation (s : MemoryStore) (parentId : String) (d : VariationDraft) :
    StoreResponse Variation × MemoryStore :=
  if !s.themes.contains parentId then (.fail (.notFound .theme parentId), s)
  else if s.variations.values.any fun v => v.name == d.name then
    (.fail (.conflict ("variation name '" ++ d.name ++ "' already exists")), s)
  else
    let number := s.freshNumber "variation"
    let v := d.toVariation (numberedId "variation" number) parentId
    (.ok v, { s with variations := s.variations.insert v.id v, lastNumber := number })

/-- Set the assignment of a page. -/
def assign (s : MemoryStore) (page : String) (target : AssignmentTarget) :
    StoreResponse Assignment × MemoryStore :=
  if target.isVariation && target.variationId.isNone then
    (.fail (.rejected "variation assignment requires theme_variation_id"), s)
  else
    let a : Assignment := ⟨page, target⟩
    (.ok a, { s with assignments := s.assignments.insert page a })

/-- Delete the assignment of a page, if it has one. -/
def deleteAssignment (s : MemoryStore) (page : String) : StoreResponse Unit × MemoryStore :=
  (.ok (), { s with assignments := s.assignments.erase page })

/-! ## Requests -/

/-- The failure of a request to a store that is offline. -/
def offlineFailure (request : String) : Failure :=
  .persistence (request ++ ": memory store is offline")

/-- Ask for something that changes nothing. -/
def read (request : String) (f : MemoryStore → α) : StateM MemoryStore (Answer α) :=
  fun s => (if s.offline then .error (offlineFailure request) else .ok (f s), s)

/-- Ask for a change. -/
def change (request : String) (f : MemoryStore → α × MemoryStore) :
    StateM MemoryStore (Answer α) :=
  fun s => if s.offline then (.error (offlineFailure request), s) else ((.ok (f s).1), (f s).2)

instance : ThemeStore MemoryStore where
  listThemes filter := read "list_themes" (·.listings filter)
  getTheme id := read "get_theme" (·.themes.get? id)
  getDefaultTheme := read "get_default_theme" (·.defaultTheme?)
  createTheme draft := change "create_theme" (·.createTheme draft)
  updateTheme id patch := change "update_theme" (·.updateTheme id patch)
  deleteTheme id := change "delete_theme" (·.deleteTheme id)
  setDefaultTheme id := change "set_default_theme" (·.setDefaultTheme id)
  listVariations filter := read "list_variations" (·.variationList filter)
  getVariation id := read "get_variation" (·.variations.get? id)
  createVariation parentId draft := change "create_variation" (·.createVariation parentId draft)
  getAssignment page := read "get_page_assignment" (·.assignments.get? page)
  assign page target := change "upsert_page_assignment" (·.assign page target)
  deleteAssignment page := change "delete_page_assignment" (·.deleteAssignment page)

end MemoryStore

end ThemedPages
