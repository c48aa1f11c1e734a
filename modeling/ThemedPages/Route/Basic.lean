import ThemedPages.Document.Value
import ThemedPages.Time.Instant

/-!
# Routes

A route is a page that a site knows: where its descriptor is, what navigation shows of it, and
whether its last check found it sound.
-/

namespace ThemedPages

/-- What navigation shows of a page. -/
structure RouteInfo where
  title : String
  path : String
  description : String := ""
  icon : Option String := none
  order : Int64 := 0
  visible : Bool := true
  category : Option String := none
  deriving DecidableEq, Repr

/-- A change to what navigation shows; what is absent stays as it is. -/
structure RouteInfoPatch where
  title : Option String := none
  path : Option String := none
  description : Option String := none
  /-- An icon, or none, to have from now on. -/
  icon : Option (Option String) := none
  order : Option Int64 := none
  visible : Option Bool := none
  /-- A category, or none, to have from now on. -/
  category : Option (Option String) := none
  deriving DecidableEq, Repr

/-- What navigation shows after a change. -/
def RouteInfoPatch.apply (p : RouteInfoPatch) (i : RouteInfo) : RouteInfo where
  title := p.title.getD i.title
  path := p.path.getD i.path
  description := p.description.getD i.description
  icon := p.icon.getD i.icon
  order := p.order.getD i.order
  visible := p.visible.getD i.visible
  category := p.category.getD i.category

/-- A page that a site knows. -/
structure Route where
  id : String
  info : RouteInfo
  /-- The path of its descriptor. -/
  descriptorPath : String
  /-- The directory of its own components. -/
  componentPath : Option String := none
  /-- Whether its last check found it sound; a route that was not checked is. -/
  isValid : Bool := true
  /-- When it was checked last. -/
  lastChecked : Option Instant := none
  deriving DecidableEq, Repr

/-! ## Routes in documents -/

/-- What navigation shows, as a value. -/
def RouteInfo.toValue (i : RouteInfo) : Value :=
  .obj [("title", .str i.title), ("path", .str i.path), ("description", .str i.description),
    ("icon", .ofText? i.icon), ("order", .ofInt i.order.toInt), ("visible", .bool i.visible),
    ("category", .ofText? i.category)]

/-- A route as a value. -/
def Route.toValue (r : Route) : Value :=
  .obj [("id", .str r.id), ("metadata", r.info.toValue), ("configPath", .str r.descriptorPath),
    ("componentPath", .ofText? r.componentPath), ("isValid", .bool r.isValid),
    ("lastValidated", .ofText? (r.lastChecked.map Instant.toText))]

end ThemedPages
