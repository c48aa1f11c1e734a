import ThemedPages.Text.Blank
import ThemedPages.Theme.Cache
import ThemedPages.Theme.Properties
import ThemedPages.Theme.Store.Basic

/-!
# The theme engine

Which theme a page has: that of its assignment, a theme or a variation, or else the default theme.
A page whose assignment leads nowhere gets the default theme as well. When not even that can be
loaded a fixed fallback is served, if there is one.

What was resolved is cached until it is dropped: by an assignment or its removal, by a refresh, or
by a change to a theme. Every change that may show on a page is announced.
-/

namespace ThemedPages

/-- How a page got its theme. A page that has none of these is unresolved. -/
inductive ResolutionState
  | resolving
  /-- It has no assignment. -/
  | byDefault
  /-- It is assigned to a theme. -/
  | assigned
  /-- It is assigned to a variation. -/
  | variation
  /-- Something was not found, or could not be asked for. -/
  | failed
  deriving DecidableEq, Repr

/-- The word for a state. -/
def ResolutionState.name : ResolutionState → String
  | .resolving => "Resolving"
  | .byDefault => "ResolvedDefault"
  | .assigned => "ResolvedAssigned"
  | .variation => "ResolvedVariation"
  | .failed => "Failed"

/-- An announced change. -/
inductive ThemeChange
  /-- The page has this theme now. -/
  | page (page : String) (theme : ResolvedTheme)
  /-- The theme, or what is derived from it, is not what it was. -/
  | invalidated (themeId : String)
  /-- Everything cached was dropped. -/
  | refreshed
  deriving DecidableEq

/-- The order in which known pages are resolved again, which nothing promises. -/
structure VisitOrder where
  arrange : List String → List String
  perm : ∀ pages, (arrange pages).Perm pages

/-- Pages in the order of their ids. -/
def VisitOrder.byId : VisitOrder := ⟨id, fun pages => .refl pages⟩

/-- A theme engine over a store. -/
structure ThemeEngine (σ : Type) where
  store : σ
  cache : ThemeCache := {}
  /-- The states of the pages that are not unresolved. -/
  states : Table ResolutionState := .empty
  /-- What is served when nothing can be resolved. -/
  fallback : Option ResolvedTheme := none
  /-- All announced changes, the first one first. -/
  changes : List ThemeChange := []

/-- What a theme engine does: it changes its state, and may fail. -/
abbrev EngineM (σ : Type) := ExceptT Failure (StateM (ThemeEngine σ))

namespace ThemeEngine

variable {σ : Type}

/-- The same engine over another store. -/
def mapStore (f : σ → τ) (e : ThemeEngine σ) : ThemeEngine τ :=
  { store := f e.store, cache := e.cache, states := e.states, fallback := e.fallback,
    changes := e.changes }

/-! ## Parts of the state -/

/-- Ask the store. -/
def ask (request : StateM σ (Answer α)) : EngineM σ α := ExceptT.mk fun e =>
  let (answer, store) := request e.store
  (answer, { e with store })

/-- Change the cache. -/
def modifyCache (f : ThemeCache → ThemeCache) : EngineM σ Unit :=
  modify fun e => { e with cache := f e.cache }

/-- Change the states of pages. -/
def modifyStates (f : Table ResolutionState → Table ResolutionState) : EngineM σ Unit :=
  modify fun e => { e with states := f e.states }

/-- Set the state of a page. -/
def setState (page : String) (state : ResolutionState) : EngineM σ Unit :=
  modifyStates (·.insert page state)

/-- Make a page unresolved. -/
def forget (page : String) : EngineM σ Unit := modifyStates (·.erase page)

/-- Announce a change. -/
def announce (change : ThemeChange) : EngineM σ Unit :=
  modify fun e => { e with changes := e.changes ++ [change] }

/-- Look up a page in the cache. -/
def serve (page : String) : EngineM σ (Option ResolvedTheme) :=
  modifyGet fun e =>
    let (theme?, cache) := e.cache.serve page
    (theme?, { e with cache })

/-- The cached theme under a key. -/
def cached? (key : ThemeKey) : EngineM σ (Option ResolvedTheme) := return (← get).cache.get? key

variable [ThemeStore σ]

/-! ## Resolution -/

/-- A theme of the store. -/
def loadTheme (id : String) : EngineM σ Theme := do
  match ← ask (ThemeStore.getTheme id) with
  | some t => return t
  | none => throw (.notFound .theme id)

/-- A variation of the store. -/
def loadVariation (id : String) : EngineM σ Variation := do
  match ← ask (ThemeStore.getVariation id) with
  | some v => return v
  | none => throw (.notFound .variation id)

/-- The default theme, with its key. -/
def loadDefault : EngineM σ (ThemeKey × ResolvedTheme) := do
  match ← ask ThemeStore.getDefaultTheme with
  | none => throw (.notFound .defaultTheme "is_default")
  | some t =>
    let key := .theme t.id
    return (key, (← cached? key).getD t.resolved)

/-- What an assignment leads to, with its key and the state that it gives a page. -/
def followAssignment (page : String) (target : AssignmentTarget) :
    EngineM σ (ThemeKey × ResolvedTheme × ResolutionState) := do
  if target.isVariation then
    match target.variationId with
    | none => throw (.notFound .variation ("<unset for " ++ page ++ ">"))
    | some id =>
      let key := .variation id
      match ← cached? key with
      | some t => return (key, t, .variation)
      | none =>
        let v ← loadVariation id
        let parent ← loadTheme v.parentId
        return (key, v.resolved parent.category, .variation)
  else
    let key := .theme target.themeId
    match ← cached? key with
    | some t => return (key, t, .assigned)
    | none => return (key, (← loadTheme target.themeId).resolved, .assigned)

/-- The theme that a page is assigned to, or the default theme if it is assigned to none. -/
def resolve (page : String) : EngineM σ (ThemeKey × ResolvedTheme × ResolutionState) := do
  match ← ask (ThemeStore.getAssignment page) with
  | some a => followAssignment page a.target
  | none =>
    let (key, t) ← loadDefault
    return (key, t, .byDefault)

/-- What is served when a page cannot be resolved: the default theme if something was not found,
or else the fixed fallback. -/
def fallBack (failure : Failure) : EngineM σ ResolvedTheme := do
  let default? ← if failure.isNotFound then observing loadDefault else pure (.error failure)
  match default? with
  | .ok (key, t) =>
    modifyCache (·.put key t)
    return t
  | .error _ =>
    match (← get).fallback with
    | some t => return t
    | none => throw failure

/-- The theme of a page. -/
def pageTheme (page : String) : EngineM σ ResolvedTheme := do
  match ← serve page with
  | some t => return t
  | none =>
    setState page .resolving
    match ← observing (resolve page) with
    | .ok (key, t, state) =>
      modifyCache (·.bind page key t)
      setState page state
      return t
    | .error failure =>
      setState page .failed
      fallBack failure

/-! ## Assignments -/

/-- What a page is to be assigned to, resolved. -/
def targetOf (id : String) (isVariation : Bool) :
    EngineM σ (ThemeKey × ResolvedTheme × AssignmentTarget × ResolutionState) := do
  if isVariation then
    let v ← loadVariation id
    let parent ← loadTheme v.parentId
    return (.variation v.id, v.resolved parent.category, ⟨parent.id, some v.id, true⟩, .variation)
  else
    let t ← loadTheme id
    return (.theme t.id, t.resolved, ⟨t.id, none, false⟩, .assigned)

/-- Assign a page to a theme or to a variation. -/
def applyTheme (page id : String) (isVariation : Bool) : EngineM σ ResolvedTheme := do
  let (key, t, target, state) ← targetOf id isVariation
  let response ← ask (ThemeStore.assign page target)
  let _ ← response.result "assign page theme"
  modifyCache (·.bind page key t)
  setState page state
  announce (.page page t)
  return t

/-- Resolve a page that was unbound, and announce its theme. -/
def resolveAgain (page : String) : EngineM σ ResolvedTheme := do
  forget page
  let t ← pageTheme page
  announce (.page page t)
  return t

/-- Remove the assignment of a page. -/
def resetTheme (page : String) : EngineM σ ResolvedTheme := do
  let response ← ask (ThemeStore.deleteAssignment page)
  response.result "delete page assignment"
  modifyCache (·.unbind page)
  resolveAgain page

/-! ## Refreshing -/

/-- The cache without a page and without what the page is bound to. -/
def dropPage (c : ThemeCache) (page : String) : ThemeCache :=
  (match c.pageKey? page with
  | some key => c.drop key
  | none => c).unbind page

/-- Drop what is cached for a page, and resolve it again. -/
def refreshPage (page : String) : EngineM σ ResolvedTheme := do
  modifyCache (dropPage · page)
  resolveAgain page

/-- Resolve pages again, each with the properties that it had, and announce those that have others
now. The first failure is given, and does not keep later pages from being resolved. -/
def resolveAll : List (String × Option Styles) → EngineM σ (Option Failure)
  | [] => return none
  | (page, old?) :: rest => do
    let failure? ← match ← observing (pageTheme page) with
      | .ok t =>
        if old? != some t.properties then announce (.page page t)
        pure none
      | .error failure => pure (some failure)
    let later? ← resolveAll rest
    return failure? <|> later?

/-- Drop everything that is cached, list the themes, and resolve every page that is known. -/
def refreshAll (order : VisitOrder := .byId) : EngineM σ (List ThemeListing) := do
  let e ← get
  let known := (order.arrange e.states.keys).map fun page =>
    (page, (e.cache.pageTheme? page).map ResolvedTheme.properties)
  modifyCache ThemeCache.clear
  modifyStates fun _ => .empty
  announce .refreshed
  let themes ← ask (ThemeStore.listThemes .all)
  match ← resolveAll known with
  | some failure => throw failure
  | none => return themes

/-- One round of a periodic refresh, which resolves the given pages too. -/
def refreshRound (pages : List String) (order : VisitOrder := .byId) : EngineM σ Unit := do
  let _ ← refreshAll order
  pages.forM fun page => discard (pageTheme page)

/-! ## The theme graph -/

/-- The themes that a filter asks for. -/
def listThemes (filter : ThemeFilter) : EngineM σ (List ThemeListing) :=
  ask (ThemeStore.listThemes filter)

/-- The variations that a filter asks for. -/
def listVariations (filter : VariationFilter) : EngineM σ (List Variation) :=
  ask (ThemeStore.listVariations filter)

end ThemeEngine

/-- A required text: there, and not blank. -/
def presentText? (text? : Option String) : Option String := text?.filter fun s => !Text.blank s

/-- An issue for a required field that is absent. -/
def requiredIssue (field : String) (x : Option α) : List Issue :=
  if x.isSome then [] else [⟨[.field field], field ++ " is required"⟩]

/-- The draft of a new theme, which is neither a system theme nor the default. -/
def NewTheme.draft (t : NewTheme) : Except Failure ThemeDraft :=
  match presentText? t.name, presentText? t.displayName, t.category, t.colors with
  | some name, some displayName, some category, some colors =>
    .ok { name, displayName, description := t.description, category, colors,
          styling := t.styling, author := t.author }
  | name, displayName, category, colors =>
    .error <| .validation ⟨requiredIssue "name" name ++
      requiredIssue "display_name" displayName ++ requiredIssue "category" category ++
      requiredIssue "colors" colors⟩

/-- The draft of a new variation of a theme, made at `now`; its name ends in a number. -/
def NewVariation.draft (v : NewVariation) (parentId : String) (now : Instant) (number : Int) :
    VariationDraft :=
  { name := v.name ++ "-" ++ toString number, displayName := v.displayName.getD v.name,
    pageId := v.pageId, colors := v.colors, styling := v.styling, depth := 1,
    lineage := [parentId], createdAt := now }

namespace ThemeEngine

variable {σ : Type} [ThemeStore σ]

/-- Create a theme. -/
def createTheme (data : NewTheme) : EngineM σ Theme := do
  let draft ← data.draft
  let response ← ask (ThemeStore.createTheme draft)
  response.result "create theme"

/-- Create a variation under the first of `tries` names that is free, counting from a number. -/
def createVariationFrom (parentId : String) (data : NewVariation) (now : Instant) :
    (tries : Nat) → (number : Int) → EngineM σ Variation
  | 0, _ => throw (.conflict "variation name exhausted")
  | tries + 1, number => do
    let response ← ask (ThemeStore.createVariation parentId (data.draft parentId now number))
    match response.result "create variation" with
    | .ok v => return v
    | .error (.conflict message) =>
      if tries = 0 then throw (.conflict message)
      else createVariationFrom parentId data now tries (number + 1)
    | .error failure => throw failure

/-- How many names are tried for a new variation. -/
def variationTries : Nat := 5

/-- Create a variation of a theme at a time, which becomes part of its name. -/
def createVariation (parentId : String) (data : NewVariation) (now : Instant) :
    EngineM σ Variation := do
  if Text.blank data.name then
    throw (.validation (.single [.field "name"] "name is required"))
  let parent ← loadTheme parentId
  createVariationFrom parent.id data now variationTries now.millis

/-- Drop a theme and what is derived from it, and make the pages unresolved that are bound to
nothing now. -/
def invalidateFamily (themeId : String) : EngineM σ Unit := do
  modify fun e =>
    let cache := e.cache.dropFamily themeId
    { e with cache, states := e.states.filter fun page _ => (cache.pageKey? page).isSome }
  announce (.invalidated themeId)

/-- Change a theme that is not a system theme. -/
def updateTheme (id : String) (patch : ThemePatch) : EngineM σ Theme := do
  let current ← loadTheme id
  if current.isSystem then throw (.conflict "cannot modify system themes")
  let response ← ask (ThemeStore.updateTheme id patch)
  let t ← response.result "update theme"
  invalidateFamily id
  return t

/-- Delete a theme that is neither a system theme nor the default. -/
def deleteTheme (id : String) : EngineM σ Unit := do
  let current ← loadTheme id
  if current.isSystem then throw (.conflict "cannot delete system themes")
  if current.isDefault then throw (.conflict "cannot delete the default theme")
  let response ← ask (ThemeStore.deleteTheme id)
  response.result "delete theme"
  invalidateFamily id

/-- Unbind the pages that have the default theme, and make them unresolved. -/
def forgetDefaulted : EngineM σ Unit := modify fun e =>
  let defaulted (page : String) : Bool := e.states.get? page == some .byDefault
  { e with
    cache := { e.cache with pages := e.cache.pages.filter fun page _ => !defaulted page }
    states := e.states.filter fun page _ => !defaulted page }

/-- Make a theme the only default theme. -/
def setDefaultTheme (id : String) : EngineM σ Theme := do
  let _ ← loadTheme id
  let response ← ask (ThemeStore.setDefaultTheme id)
  let t ← response.result "set default theme"
  forgetDefaulted
  return t

end ThemeEngine

end ThemedPages
