import ThemedPages.Component.Registry
import ThemedPages.Compose.Filter
import ThemedPages.Text.Html

/-!
# Composed pages

A page with all its components rendered, in the order in which they are shown: first those with
an order of their own, by it, and then the others; where that leaves a choice, by row, by column,
and as in the descriptor. A filter decides which of them are shown, and may be changed later.
-/

namespace ThemedPages

/-- What came of rendering a component. -/
inductive NodeOutput
  | rendered (html : String)
  /-- The page does not have the component type. -/
  | placeholder (reason : String)
  /-- The component type refused. -/
  | failed (error : String)
  deriving DecidableEq, Repr

/-- Whether a component was rendered. -/
def NodeOutput.isRendered : NodeOutput → Bool
  | .rendered _ => true
  | _ => false

/-- A component of a composed page. -/
structure ComposedNode where
  id : String
  typeName : String
  position : Position
  group : Option String
  tags : List String
  style : Option (Table Value)
  output : NodeOutput
  deriving DecidableEq

/-- What filters look at. -/
def ComposedNode.facts (n : ComposedNode) : ComponentFacts := ⟨n.id, n.typeName, n.group, n.tags⟩

/-- Whether one position is shown before another, or may be. -/
def Position.shownBefore (a b : Position) : Bool :=
  let place := a.row < b.row || (a.row == b.row && a.col ≤ b.col)
  match a.order, b.order with
  | some m, some n => m < n || (m == n && place)
  | some _, none => true
  | none, some _ => false
  | none, none => place

/-- A composed page. -/
structure ComposedPage where
  id : String
  title : String
  layout : PageLayout
  theme : Option ResolvedTheme
  /-- All components in the order in which they are shown. -/
  nodes : List ComposedNode
  filter : ComponentFilter := .all

/-- Render a component on a page. -/
def Component.render (c : Component) (components : ComponentRegistry) (page : String)
    (theme : Option ResolvedTheme) : NodeOutput :=
  match components.get? page c.typeName with
  | none => .placeholder ("unknown component type '" ++ c.typeName ++ "'")
  | some type =>
    match type c.props ⟨page, c.id, theme⟩ with
    | .ok html => .rendered html
    | .error failure => .failed failure.message

/-- A component as part of a composed page. -/
def Component.node (c : Component) (components : ComponentRegistry) (page : String)
    (theme : Option ResolvedTheme) : ComposedNode :=
  { id := c.id, typeName := c.typeName, position := c.position, group := c.group, tags := c.tags,
    style := c.style, output := c.render components page theme }

/-- Compose a page from its descriptor. -/
def Descriptor.compose (d : Descriptor) (components : ComponentRegistry) (page : String)
    (theme : Option ResolvedTheme) : ComposedPage where
  id := page
  title := d.title?.getD page
  layout := d.layout.getD {}
  theme := theme
  nodes := (d.componentList.map fun c => c.node components page theme).mergeSort
    fun a b => a.position.shownBefore b.position

namespace ComposedPage

/-- The components that are shown. -/
def shown (p : ComposedPage) : List ComposedNode :=
  p.nodes.filter fun n => p.filter.accepts n.facts

/-- The same page with another filter. -/
def withFilter (p : ComposedPage) (filter : ComponentFilter) : ComposedPage := { p with filter }

/-- The component with an id. -/
def get? (p : ComposedPage) (id : String) : Option ComposedNode :=
  p.nodes.find? fun n => n.id == id

/-- The components that were not rendered. -/
def degraded (p : ComposedPage) : List ComposedNode :=
  p.nodes.filter fun n => !n.output.isRendered

end ComposedPage

/-! ## Markup -/

open Text.Html (escape)

/-- What shows a component that was not rendered. -/
def errorHtml (typeName reason : String) : String :=
  "<div class=\"component-error\" data-type=\"" ++ escape typeName ++ "\">" ++ escape reason ++
    "</div>"

/-- The inside of a component's section. -/
def ComposedNode.contentHtml (n : ComposedNode) : String :=
  match n.output with
  | .rendered html => html
  | .placeholder reason => errorHtml n.typeName reason
  | .failed reason => errorHtml n.typeName reason

/-- The place of a component as a style. -/
def Position.css (p : Position) : String :=
  "grid-column: " ++ toString p.col.toNat ++ " / span " ++ toString p.span.toNat ++
    "; grid-row: " ++ toString p.row.toNat ++ " / span " ++ toString (p.rowSpan.getD 1).toNat

/-- The section of a component. -/
def ComposedNode.html (n : ComposedNode) : String :=
  "  <section data-component-id=\"" ++ escape n.id ++ "\" style=\"" ++ n.position.css ++ "\">" ++
    n.contentHtml ++ "</section>\n"

/-- The shown components within the page's container. -/
def ComposedPage.html (p : ComposedPage) : String :=
  "<main data-page-id=\"" ++ escape p.id ++ "\" data-layout=\"" ++ escape p.layout.kind ++
    "\" data-columns=\"" ++ toString p.layout.columns.toNat ++ "\">\n" ++
    String.join (p.shown.map ComposedNode.html) ++ "</main>\n"

end ThemedPages
