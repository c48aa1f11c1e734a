import ThemedPages.Component.Registry
import ThemedPages.Descriptor.File
import ThemedPages.Route.Basic

/-!
# The route registry

All routes of a site, by id. Whether a route is valid is decided here alone: a route is valid when
it is registered, and after that what its last check found. A check loads the descriptor, and asks
whether the page has all component types that it names.
-/

namespace ThemedPages

/-- All routes of a site. -/
structure RouteRegistry where
  routes : Table Route := .empty
  deriving DecidableEq

namespace RouteRegistry

/-- The route with an id. -/
def get? (r : RouteRegistry) (id : String) : Option Route := r.routes.get? id

/-- All routes by id. -/
def all (r : RouteRegistry) : List Route := r.routes.values

/-- Order of navigation. -/
def shownBefore (a b : Route) : Bool :=
  a.info.order < b.info.order || (a.info.order == b.info.order && a.id ≤ b.id)

/-- The visible routes in the order of navigation. -/
def visible (r : RouteRegistry) : List Route :=
  (r.all.filter fun route => route.info.visible).mergeSort shownBefore

/-- Add a route, as valid and not checked. -/
def register (r : RouteRegistry) (route : Route) : Except Failure RouteRegistry :=
  if r.routes.contains route.id then
    .error (.conflict ("route '" ++ route.id ++ "' is already registered"))
  else .ok ⟨r.routes.insert route.id { route with isValid := true, lastChecked := none }⟩

/-- Take a route out. -/
def unregister (r : RouteRegistry) (id : String) : RouteRegistry := ⟨r.routes.erase id⟩

/-- Change what navigation shows of a route. -/
def update (r : RouteRegistry) (id : String) (p : RouteInfoPatch) :
    Except Failure (Route × RouteRegistry) :=
  match r.get? id with
  | none => .error (.notFound .page id)
  | some route =>
    let route := { route with info := p.apply route.info }
    .ok (route, ⟨r.routes.insert id route⟩)

/-- Keep what a check of a route found. -/
def recordCheck (r : RouteRegistry) (id : String) (valid : Bool) (now : Instant) : RouteRegistry :=
  match r.get? id with
  | none => r
  | some route => ⟨r.routes.insert id { route with isValid := valid, lastChecked := some now }⟩

end RouteRegistry

/-- Whether a descriptor loads, and a page has all component types that it names. -/
def isSound (files : FileTree) (components : ComponentRegistry) (page path : String) : Bool :=
  match Descriptor.load files path with
  | .ok d => d.componentList.all fun c => components.contains page c.typeName
  | .error _ => false

namespace RouteRegistry

/-- Check a route, and keep what is found. -/
def revalidate (r : RouteRegistry) (files : FileTree) (components : ComponentRegistry)
    (now : Instant) (id : String) : Except Failure Bool × RouteRegistry :=
  match r.get? id with
  | none => (.error (.notFound .page id), r)
  | some route =>
    let valid := isSound files components id route.descriptorPath
    (.ok valid, r.recordCheck id valid now)

/-- Check some routes, and give the ids of those that are not valid. -/
def revalidateEach (files : FileTree) (components : ComponentRegistry) (now : Instant) :
    List String → RouteRegistry → List String × RouteRegistry
  | [], r => ([], r)
  | id :: rest, r =>
    let (outcome, r) := r.revalidate files components now id
    let (invalid, r) := revalidateEach files components now rest r
    (if outcome matches .ok false then id :: invalid else invalid, r)

/-- Check all routes, and give the ids of those that are not valid. -/
def revalidateAll (r : RouteRegistry) (files : FileTree) (components : ComponentRegistry)
    (now : Instant) : List String × RouteRegistry :=
  revalidateEach files components now r.routes.keys r

end RouteRegistry

end ThemedPages
