import ThemedPages.Descriptor.Basic
import ThemedPages.Document.Record
import ThemedPages.Document.Shape

/-!
# Descriptors in documents

How a descriptor stands in a document: the field names, which fields may be absent, and what an
absent field means. `Descriptor.toValue` writes a descriptor and `Descriptor.ofValue?` reads one;
`Descriptor.shape` tells a reader which parts of a document it needs.
-/

namespace ThemedPages

open Record

/-! ## Writing -/

/-- The `page` section as a value. -/
def PageInfo.toValue (p : PageInfo) : Value :=
  .obj [("title", .str p.title), ("route", .str p.route), ("description", .str p.description)]

/-- The `layout` section as a value. -/
def PageLayout.toValue (l : PageLayout) : Value :=
  .obj <| [("type", .str l.kind), ("columns", .ofNat l.columns.toNat)] ++
    given? "gap" .str l.gap ++ given? "padding" .str l.padding

/-- A position as a value. -/
def Position.toValue (p : Position) : Value :=
  .obj <| [("col", .ofNat p.col.toNat), ("row", .ofNat p.row.toNat),
      ("span", .ofNat p.span.toNat)] ++
    given? "rowSpan" (fun n => .ofNat n.toNat) p.rowSpan ++
    given? "order" (fun i => .ofInt i.toInt) p.order

/-- A component as a value. -/
def Component.toValue (c : Component) : Value :=
  .obj <| [("id", .str c.id), ("type", .str c.typeName), ("position", c.position.toValue),
      ("props", .ofTable c.props)] ++
    given? "style" .ofTable c.style

/-- The `navigation` section as a value. -/
def Navigation.toValue (n : Navigation) : Value :=
  .obj <| [("showSidebar", .bool n.showSidebar)] ++ given? "customHeader" .str n.customHeader ++
    [("breadcrumbs", .bool n.breadcrumbs)]

/-- A data source as a value. -/
def DataSource.toValue (s : DataSource) : Value :=
  .obj <| [("name", .str s.name), ("type", .str s.kind)] ++ given? "endpoint" .str s.endpoint ++
    given? "method" .str s.method ++ given? "refresh" (fun n => .ofNat n.toNat) s.refresh ++
    given? "transform" .str s.transform

/-- The `meta` section as a value. -/
def DescriptorMeta.toValue (m : DescriptorMeta) : Value :=
  .obj <| given? "author" .str m.author ++ given? "version" .str m.version ++
    given? "lastModified" (fun t => .str t.toText) m.lastModified ++ nonEmpty "tags" .str m.tags

/-- A descriptor as a value. -/
def Descriptor.toValue (d : Descriptor) : Value :=
  .obj <| given? "page" PageInfo.toValue d.page ++ given? "layout" PageLayout.toValue d.layout ++
    given? "components" (fun cs => .arr (cs.map Component.toValue)) d.components ++
    given? "navigation" Navigation.toValue d.navigation ++
    nonEmpty "dataSources" DataSource.toValue d.dataSources ++
    given? "meta" DescriptorMeta.toValue d.info

/-! ## Reading -/

/-- Read the `page` section. -/
def PageInfo.ofValue? (v : Value) : Option PageInfo := do
  let f ← fields? ["title", "route", "description"] v
  return {
    title := ← required f "title" text
    route := ← required f "route" text
    description := ← withDefault f "description" text "" }

/-- Read the `layout` section. -/
def PageLayout.ofValue? (v : Value) : Option PageLayout := do
  let f ← fields? ["type", "columns", "gap", "padding"] v
  return {
    kind := ← required f "type" text
    columns := ← withDefault f "columns" word32 12
    gap := ← optional f "gap" text
    padding := ← optional f "padding" text }

/-- Read a position. -/
def Position.ofValue? (v : Value) : Option Position := do
  let f ← fields? ["col", "row", "span", "rowSpan", "order"] v
  return {
    col := ← required f "col" word32
    row := ← required f "row" word32
    span := ← withDefault f "span" word32 1
    rowSpan := ← optional f "rowSpan" word32
    order := ← optional f "order" int64 }

/-- Read a component. -/
def Component.ofValue? (v : Value) : Option Component := do
  let f ← fields? ["id", "type", "position", "props", "style"] v
  return {
    id := ← required f "id" text
    typeName := ← required f "type" text
    position := ← required f "position" Position.ofValue?
    props := ← withDefault f "props" object .empty
    style := ← optional f "style" object }

/-- Read the `navigation` section. -/
def Navigation.ofValue? (v : Value) : Option Navigation := do
  let f ← fields? ["showSidebar", "customHeader", "breadcrumbs"] v
  return {
    showSidebar := ← withDefault f "showSidebar" flag true
    customHeader := ← optional f "customHeader" text
    breadcrumbs := ← withDefault f "breadcrumbs" flag true }

/-- Read a data source. -/
def DataSource.ofValue? (v : Value) : Option DataSource := do
  let f ← fields? ["name", "type", "endpoint", "method", "refresh", "transform"] v
  return {
    name := ← required f "name" text
    kind := ← required f "type" text
    endpoint := ← optional f "endpoint" text
    method := ← optional f "method" text
    refresh := ← optional f "refresh" word64
    transform := ← optional f "transform" text }

/-- Read the `meta` section. -/
def DescriptorMeta.ofValue? (v : Value) : Option DescriptorMeta := do
  let f ← fields? ["author", "version", "lastModified", "tags"] v
  return {
    author := ← optional f "author" text
    version := ← optional f "version" text
    lastModified := ← optional f "lastModified" instant
    tags := ← withDefault f "tags" (list text) [] }

/-- Read a descriptor. -/
def Descriptor.ofValue? (v : Value) : Option Descriptor := do
  let f ← fields? ["page", "layout", "components", "navigation", "dataSources", "meta"] v
  return {
    page := ← optional f "page" PageInfo.ofValue?
    layout := ← optional f "layout" PageLayout.ofValue?
    components := ← optional f "components" (list Component.ofValue?)
    navigation := ← optional f "navigation" Navigation.ofValue?
    dataSources := ← withDefault f "dataSources" (list DataSource.ofValue?) []
    info := ← optional f "meta" DescriptorMeta.ofValue? }

/-- The parts of a document that a descriptor is read from. -/
def Descriptor.shape : Shape :=
  let text? := Shape.optional .text
  let position := Shape.record [("col", .natural), ("row", .natural), ("span", .natural),
    ("rowSpan", .optional .natural), ("order", .optional .integer)]
  let component := Shape.record [("id", .text), ("type", .text), ("position", position),
    ("props", .object), ("style", .optional .object)]
  let source := Shape.record [("name", .text), ("type", .text), ("endpoint", text?),
    ("method", text?), ("refresh", .optional .natural), ("transform", text?)]
  .record [
    ("page", .optional (.record [("title", .text), ("route", .text), ("description", .text)])),
    ("layout", .optional (.record [("type", .text), ("columns", .natural), ("gap", text?),
      ("padding", text?)])),
    ("components", .optional (.list component)),
    ("navigation", .optional (.record [("showSidebar", .flag), ("customHeader", text?),
      ("breadcrumbs", .flag)])),
    ("dataSources", .list source),
    ("meta", .optional (.record [("author", text?), ("version", text?), ("lastModified", text?),
      ("tags", .list .text)]))]

end ThemedPages
