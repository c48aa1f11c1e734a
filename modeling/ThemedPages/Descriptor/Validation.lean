import ThemedPages.Descriptor.Basic
import ThemedPages.Report
import ThemedPages.Text.Blank

/-!
# Validation of descriptors

The rules of a descriptor, as the issues that each part of it raises. `Descriptor.validate` puts
them together in document order.
-/

namespace ThemedPages

/-- An issue, when a rule is broken. -/
def issueIf (broken : Bool) (path : List PathStep) (message : String) : List Issue :=
  if broken then [⟨path, message⟩] else []

/-- The title is not blank and the route starts with a slash. -/
def PageInfo.issues (p : PageInfo) : List Issue :=
  issueIf (Text.blank p.title) [.field "page", .field "title"] "title must be non-empty" ++
  issueIf (!p.route.toList.head?.any (· == '/')) [.field "page", .field "route"]
    ("route \"" ++ p.route ++ "\" must start with '/'")

/-- The kind is known and there is a column. -/
def PageLayout.issues (l : PageLayout) : List Issue :=
  issueIf l.knownKind.isNone [.field "layout", .field "type"]
    ("unknown layout type \"" ++ l.kind ++ "\" (expected one of " ++
      ", ".intercalate (LayoutKind.all.map LayoutKind.name) ++ ")") ++
  issueIf (l.columns == 0) [.field "layout", .field "columns"] "columns must be > 0"

/-- The number of columns that components have to fit into, when the layout gives one. -/
def Descriptor.columns? (d : Descriptor) : Option UInt32 :=
  (d.layout.map PageLayout.columns).filter (· != 0)

/-- The last column that a position covers. -/
def Position.lastColumn (p : Position) : Nat := p.col.toNat + p.span.toNat - 1

/-- Columns, rows and spans count from one. -/
def Position.issues (path : List PathStep) (p : Position) : List Issue :=
  issueIf (p.col == 0) (path ++ [.field "col"]) "col must be >= 1" ++
  issueIf (p.row == 0) (path ++ [.field "row"]) "row must be >= 1" ++
  issueIf (p.span == 0) (path ++ [.field "span"]) "span must be >= 1" ++
  issueIf (p.rowSpan == some 0) (path ++ [.field "rowSpan"]) "rowSpan must be >= 1"

/-- Whether a position reaches beyond the columns of the grid. A position without a column or
without a span covers nothing. -/
def Position.exceeds (p : Position) (columns : UInt32) : Bool :=
  p.col != 0 && p.span != 0 && columns.toNat < p.lastColumn

/-- A component has an id of its own and a type, and lies within the grid. -/
def Component.issues (columns? : Option UInt32) (earlier : List Component) (index : Nat)
    (c : Component) : List Issue :=
  let path := [.field "components", .index index]
  let place := path ++ [.field "position"]
  let idIssues :=
    if Text.blank c.id then [⟨path ++ [.field "id"], "component id must be non-empty"⟩]
    else issueIf (earlier.any fun e => e.id == c.id) (path ++ [.field "id"])
      ("duplicate component id \"" ++ c.id ++ "\"")
  let gridIssues := match columns? with
    | none => []
    | some columns => issueIf (c.position.exceeds columns) place
      ("component \"" ++ c.id ++ "\" spans columns " ++ toString c.position.col.toNat ++ "..=" ++
        toString c.position.lastColumn ++ " outside the " ++ toString columns.toNat ++
        "-column grid")
  idIssues ++
  issueIf (Text.blank c.typeName) (path ++ [.field "type"]) "component type must be non-empty" ++
  c.position.issues place ++ gridIssues

/-- The methods that a data source may use, whatever the case of their letters. -/
def httpMethods : List String := ["GET", "POST", "PUT", "PATCH", "DELETE"]

/-- A data source has a name of its own, a known method, and an interval above zero. -/
def DataSource.issues (earlier : List DataSource) (index : Nat) (s : DataSource) : List Issue :=
  let path := [.field "dataSources", .index index]
  let nameIssues :=
    if Text.blank s.name then [⟨path ++ [.field "name"], "data source name must be non-empty"⟩]
    else issueIf (earlier.any fun e => e.name == s.name) (path ++ [.field "name"])
      ("duplicate data source \"" ++ s.name ++ "\"")
  let methodIssues := match s.method with
    | none => []
    | some method => issueIf (!httpMethods.contains (method.map Char.toUpper))
      (path ++ [.field "method"]) ("unsupported method \"" ++ method ++ "\"")
  nameIssues ++ methodIssues ++
  issueIf (s.refresh == some 0) (path ++ [.field "refresh"]) "refresh interval must be > 0"

/-- The issues of each item of a list, which may depend on the items before it and on its place. -/
def issuesInTurn (issues : List α → Nat → α → List Issue) : List α → List α → List Issue
  | _, [] => []
  | earlier, x :: rest =>
    issues earlier earlier.length x ++ issuesInTurn issues (earlier ++ [x]) rest

/-- The issues of a section that has to be there. -/
def sectionIssues (name : String) (issues : α → List Issue) : Option α → List Issue
  | none => [⟨[.field name], "missing required section"⟩]
  | some x => issues x

/-- Every rule that a descriptor breaks. -/
def Descriptor.validate (d : Descriptor) : Report :=
  ⟨sectionIssues "page" PageInfo.issues d.page ++
    sectionIssues "layout" PageLayout.issues d.layout ++
    sectionIssues "components" (issuesInTurn (Component.issues d.columns?) []) d.components ++
    issuesInTurn DataSource.issues [] d.dataSources⟩

end ThemedPages
