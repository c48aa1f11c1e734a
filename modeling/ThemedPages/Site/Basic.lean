import ThemedPages.Component.Builtin
import ThemedPages.Compose.Tree
import ThemedPages.Route.Discovery
import ThemedPages.Style.Injector
import ThemedPages.Theme.Engine

/-!
# Sites

A running site: its routes, the component types of its pages, its themes, and the styles that are
applied. Whatever changes the theme of a page applies it again; that a style cannot be applied
fails nothing.

What a site reads from outside is given to it: the files as they are, and the time.
-/

namespace ThemedPages

/-- A running site over a theme store. -/
structure Site (σ : Type) where
  routes : RouteRegistry := {}
  components : ComponentRegistry := {}
  themes : ThemeEngine σ
  styles : StyleInjector

/-- What a site does: it changes its state, and may fail. -/
abbrev SiteM (σ : Type) := ExceptT Failure (StateM (Site σ))

/-- Why there is no page to compose. -/
inductive MissingPage
  /-- No route has the id. -/
  | unknownRoute
  /-- The route is not valid. -/
  | invalidRoute
  deriving DecidableEq, Repr

/-- The reason in a word. -/
def MissingPage.name : MissingPage → String
  | .unknownRoute => "UnknownRoute"
  | .invalidRoute => "InvalidRoute"

/-- What came of composing a page. -/
inductive Composition
  | page (p : ComposedPage)
  | notFound (id : String) (reason : MissingPage)

namespace Site

variable {σ : Type}

/-- The same site over another store. -/
def mapStore (f : σ → τ) (s : Site σ) : Site τ :=
  { routes := s.routes, components := s.components, themes := s.themes.mapStore f,
    styles := s.styles }

/-- Let the theme engine do something. -/
def onThemes (m : EngineM σ α) : SiteM σ α := ExceptT.mk fun s =>
  let (outcome, themes) := m s.themes
  (outcome, { s with themes })

/-- Change the routes. -/
def onRoutes (f : RouteRegistry → α × RouteRegistry) : SiteM σ α :=
  modifyGet fun s =>
    let (x, routes) := f s.routes
    (x, { s with routes })

/-- Change the component types. -/
def onComponents (f : ComponentRegistry → ComponentRegistry) : SiteM σ Unit :=
  modify fun s => { s with components := f s.components }

/-- Apply a theme to a page, if that is possible. -/
def applyStyle (page : String) (t : ResolvedTheme) : SiteM σ Unit :=
  modify fun s => { s with styles := (s.styles.inject page t).2 }

/-! ## Pages -/

/-- Register the new pages of a directory, with the builtin component types. -/
def discover (files : FileTree) (now : Instant) (directory : String) : SiteM σ (List String) := do
  let ids ← (← onRoutes fun r => r.discover files directory now)
  ids.forM fun id => onComponents (·.registerBuiltins id)
  return ids

/-- Check all routes, and give the ids of those that are not valid. -/
def revalidate (files : FileTree) (now : Instant) : SiteM σ (List String) := do
  let components := (← get).components
  onRoutes fun r => r.revalidateAll files components now

variable [ThemeStore σ]

/-- Compose a page. A descriptor that does not load makes its route invalid. -/
def composePage (files : FileTree) (now : Instant) (page : String) (filter : ComponentFilter) :
    SiteM σ Composition := do
  match (← get).routes.get? page with
  | none => return .notFound page .unknownRoute
  | some route =>
    if !route.isValid then return .notFound page .invalidRoute
    match Descriptor.load files route.descriptorPath with
    | .error failure =>
      onRoutes fun r => ((), r.recordCheck page false now)
      throw failure
    | .ok d =>
      let theme := (← observing (onThemes (ThemeEngine.pageTheme page))).toOption
      return .page ((d.compose (← get).components page theme).withFilter filter)

/-- Compose a page, and apply its theme. -/
def compose (files : FileTree) (now : Instant) (page : String) (filter : ComponentFilter) :
    SiteM σ Composition := do
  let outcome ← composePage files now page filter
  if let .page p := outcome then
    if let some t := p.theme then applyStyle page t
  return outcome

/-! ## Themes -/

/-- Let the theme engine give the theme of a page, and apply it. -/
def applying (page : String) (m : EngineM σ ResolvedTheme) : SiteM σ ResolvedTheme := do
  let t ← onThemes m
  applyStyle page t
  return t

/-- The theme of a page. -/
def pageTheme (page : String) : SiteM σ ResolvedTheme := applying page (ThemeEngine.pageTheme page)

/-- Assign a page to a theme or to a variation. -/
def applyTheme (page id : String) (isVariation : Bool) : SiteM σ ResolvedTheme :=
  applying page (ThemeEngine.applyTheme page id isVariation)

/-- Remove the assignment of a page. -/
def resetTheme (page : String) : SiteM σ ResolvedTheme :=
  applying page (ThemeEngine.resetTheme page)

/-- Apply the theme of a page again, if it can be resolved. -/
def applyAgain (page : String) : SiteM σ Unit := discard (observing (pageTheme page))

/-- Drop what is cached, and apply the themes of all pages again that have one applied. -/
def refreshAll (order : VisitOrder := .byId) : SiteM σ Unit := do
  let outcome ← observing (onThemes (ThemeEngine.refreshAll order))
  (← get).styles.applied.keys.forM applyAgain
  discard outcome

/-- Drop what is cached for a page, and apply its theme again. -/
def refreshPage (page : String) : SiteM σ Unit :=
  discard (applying page (ThemeEngine.refreshPage page))

/-- One round of a periodic refresh, which applies the themes of the given pages too. -/
def refreshRound (pages : List String) (order : VisitOrder := .byId) : SiteM σ Unit := do
  refreshAll order
  pages.forM fun page => discard (pageTheme page)

end Site

end ThemedPages
