import ThemedPages.Table
import ThemedPages.Text.Quoted

/-!
# Filters

A filter chooses which components of a composed page are shown. It looks at the id, the type, the
group and the tags of a component.
-/

namespace ThemedPages

/-- What a filter looks at. -/
structure ComponentFacts where
  id : String
  typeName : String
  group : Option String
  tags : List String
  deriving DecidableEq, Repr

/-- A set of texts. -/
abbrev TextSet := Table Unit

/-- The set of the texts in a list. -/
def TextSet.ofList (texts : List String) : TextSet := Table.ofList (texts.map fun s => (s, ()))

/-- Which components are shown. -/
inductive ComponentFilter
  | all
  /-- Those of a group. -/
  | group (name : String)
  /-- Those of one of some groups. -/
  | groups (names : TextSet)
  /-- Those of one of some types. -/
  | types (names : TextSet)
  /-- Those with a tag. -/
  | tag (name : String)
  /-- Those that satisfy a condition. -/
  | custom (accepts : ComponentFacts → Bool)

instance : Inhabited ComponentFilter := ⟨.all⟩

namespace ComponentFilter

/-- Whether a component is shown. -/
def accepts (f : ComponentFilter) (c : ComponentFacts) : Bool :=
  match f with
  | .all => true
  | .group g => c.group == some g
  | .groups gs => c.group.any gs.contains
  | .types ts => ts.contains c.typeName
  | .tag t => c.tags.contains t
  | .custom p => p c

/-- The filter as text. -/
def text (f : ComponentFilter) : String :=
  let named (name argument : String) : String := name ++ "(" ++ argument ++ ")"
  let set (texts : TextSet) : String := Text.Quoted.braced (texts.keys.map Text.Quoted.encode)
  match f with
  | .all => "All"
  | .group g => named "Group" (Text.Quoted.encode g)
  | .groups gs => named "Groups" (set gs)
  | .types ts => named "Types" (set ts)
  | .tag t => named "Tag" (Text.Quoted.encode t)
  | .custom _ => named "Custom" ".."

end ComponentFilter

end ThemedPages
