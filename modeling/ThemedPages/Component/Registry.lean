import ThemedPages.Descriptor.Basic
import ThemedPages.Failure
import ThemedPages.Text.Quoted
import ThemedPages.Theme.Basic

/-!
# Components

A component type is a function from the properties of a component, and from where it stands, to
markup. A registry holds the types that each page has.
-/

namespace ThemedPages

/-- Where a component is rendered. -/
structure RenderContext where
  page : String
  component : String
  /-- The theme of the page, if it has one. -/
  theme : Option ResolvedTheme

/-- A component type. -/
abbrev ComponentType := Props → RenderContext → Except Failure String

/-- The component types of each page, by name. -/
structure ComponentRegistry where
  pages : Table (Table ComponentType) := .empty

namespace ComponentRegistry

/-- The component types of a page. -/
def ofPage (r : ComponentRegistry) (page : String) : Table ComponentType :=
  (r.pages.get? page).getD .empty

/-- The component type of a page with a name. -/
def get? (r : ComponentRegistry) (page name : String) : Option ComponentType :=
  (r.ofPage page).get? name

/-- Whether a page has a component type with a name. -/
def contains (r : ComponentRegistry) (page name : String) : Bool := (r.ofPage page).contains name

/-- Give a page a component type, over any with the same name. -/
def register (r : ComponentRegistry) (page name : String) (type : ComponentType) :
    ComponentRegistry :=
  ⟨r.pages.insert page ((r.ofPage page).insert name type)⟩

/-- Take a component type from a page. -/
def unregister (r : ComponentRegistry) (page name : String) : ComponentRegistry :=
  match r.pages.get? page with
  | some types => ⟨r.pages.insert page (types.erase name)⟩
  | none => r

/-- Take all component types from a page. -/
def clear (r : ComponentRegistry) (page : String) : ComponentRegistry := ⟨r.pages.erase page⟩

/-- The registry as text: the names of the component types of each page. -/
def text (r : ComponentRegistry) : String :=
  Text.Quoted.braced <| r.pages.entries.map fun (page, types) =>
    Text.Quoted.encode page ++ ": " ++ Text.Quoted.bracketed (types.keys.map Text.Quoted.encode)

end ComponentRegistry

end ThemedPages
