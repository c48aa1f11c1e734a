import ThemedPages.Document.Value
import ThemedPages.Time.Instant

/-!
# Page descriptors

A descriptor says what a page shows: its title and route, the kind of its layout, and the
components placed on its grid. The sections that every descriptor should have may be absent here,
so that validation can report all that are missing at once.
-/

namespace ThemedPages

/-- The `page` section. -/
structure PageInfo where
  title : String
  route : String
  description : String
  deriving DecidableEq, Repr

/-- A page section without text. -/
instance : Inhabited PageInfo := ⟨⟨"", "", ""⟩⟩

/-- The known kinds of layout. -/
inductive LayoutKind
  | grid
  | flex
  | stack
  deriving DecidableEq, Repr

namespace LayoutKind

/-- All kinds, in the order in which they are listed. -/
def all : List LayoutKind := [.grid, .flex, .stack]

/-- The word for a kind. -/
def name : LayoutKind → String
  | .grid => "grid"
  | .flex => "flex"
  | .stack => "stack"

/-- The kind that a word names. -/
def ofName? (s : String) : Option LayoutKind := all.find? fun k => k.name == s

end LayoutKind

/-- The `layout` section. Its kind is any text; an unknown one is reported by validation. -/
structure PageLayout where
  kind : String := "grid"
  columns : UInt32 := 12
  gap : Option String := none
  padding : Option String := none
  deriving DecidableEq, Repr, Inhabited

/-- The kind, if it is known. -/
def PageLayout.knownKind (l : PageLayout) : Option LayoutKind := LayoutKind.ofName? l.kind

/-- The place of a component on the grid; columns and rows count from one. -/
structure Position where
  col : UInt32
  row : UInt32
  span : UInt32 := 1
  rowSpan : Option UInt32 := none
  /-- A component with an order comes before all that have none. -/
  order : Option Int64 := none
  deriving DecidableEq, Repr, Inhabited

/-- Free-form data of a component. -/
abbrev Props := Table Value

/-- A component of a page. -/
structure Component where
  id : String
  typeName : String
  position : Position
  props : Props
  style : Option (Table Value) := none
  deriving DecidableEq

namespace Component

/-- The group that the properties name. -/
def group (c : Component) : Option String := (c.props.get? "group").bind Value.text?

/-- The texts among the tags that the properties list. -/
def tags (c : Component) : List String :=
  (((c.props.get? "tags").bind Value.items?).getD []).filterMap Value.text?

end Component

/-- The `navigation` section. -/
structure Navigation where
  showSidebar : Bool := true
  customHeader : Option String := none
  breadcrumbs : Bool := true
  deriving DecidableEq, Repr, Inhabited

/-- Where a page gets data from. -/
structure DataSource where
  name : String
  kind : String
  endpoint : Option String := none
  method : Option String := none
  /-- Seconds between two requests. -/
  refresh : Option UInt64 := none
  transform : Option String := none
  deriving DecidableEq, Repr

/-- The `meta` section. -/
structure DescriptorMeta where
  author : Option String := none
  version : Option String := none
  lastModified : Option Instant := none
  tags : List String := []
  deriving DecidableEq, Repr, Inhabited

/-- A page descriptor. -/
structure Descriptor where
  page : Option PageInfo := none
  layout : Option PageLayout := none
  components : Option (List Component) := none
  navigation : Option Navigation := none
  dataSources : List DataSource := []
  info : Option DescriptorMeta := none
  deriving DecidableEq, Inhabited

namespace Descriptor

/-- The components in document order; none when the section is absent. -/
def componentList (d : Descriptor) : List Component := d.components.getD []

/-- The title, if there is a page section. -/
def title? (d : Descriptor) : Option String := d.page.map PageInfo.title

/-- The descriptor with the time of its last change set. -/
def stamped (d : Descriptor) (now : Instant) : Descriptor :=
  { d with info := some { d.info.getD {} with lastModified := some now } }

/-- The descriptor without the time of its last change. -/
def unstamped (d : Descriptor) : Descriptor :=
  { d with info := d.info.map fun m => { m with lastModified := none } }

end Descriptor

end ThemedPages
