import ThemedPages.Proofs.Component.Builtins
import ThemedPages.Proofs.Compose.View

/-!
# The markup of a page

Tags and attributes begin and end at three characters: angle brackets and double quotes. Markup is
put together from fixed pieces, from numbers, and from escaped texts, and the last two have none of
the three. So they stand where the fixed pieces put them, whatever a page says.

**Theorem (`boundaries_html`).** For a page that has builtin component types only, what is left of
its markup without all other characters depends on the outlines of the components that are shown and
on nothing else.
-/

namespace ThemedPages

open Text.Html (escape escapeChar toList_escape)

/-! ## Boundaries -/

/-- The characters at which tags and attributes begin and end. -/
def isBoundary (c : Char) : Bool := c == '<' || c == '>' || c == '"'

/-- The boundaries in a text, without everything else. -/
def boundaries (s : String) : List Char := s.toList.filter isBoundary

theorem boundaries_append (s t : String) :
    boundaries (s ++ t) = boundaries s ++ boundaries t := by
  simp [boundaries]

theorem boundaries_join (pieces : List String) :
    boundaries (String.join pieces) = pieces.flatMap boundaries := by
  rw [boundaries, String.toList_join, List.filter_flatMap]
  rfl

theorem filter_escapeChar (c : Char) : (escapeChar c).filter isBoundary = [] := by
  unfold escapeChar
  split
  · rfl
  · rfl
  · rfl
  · rfl
  · rfl
  · rename_i hlt hgt hquote _
    simpa [isBoundary] using ⟨⟨hlt, hgt⟩, hquote⟩

/-- **An escaped text has no boundaries.** -/
theorem boundaries_escape (s : String) : boundaries (escape s) = [] := by
  rw [boundaries, toList_escape, List.filter_flatMap, List.flatMap_eq_nil_iff]
  exact fun c _ => filter_escapeChar c

theorem boundaries_toString (n : Nat) : boundaries (toString n) = [] := by
  rw [boundaries, Nat.toString_eq_ofList_toDigits, String.toList_ofList, List.filter_eq_nil_iff]
  intro c hc hboundary
  have hdigit := Nat.isDigit_of_mem_toDigits (by decide) (by decide) hc
  simp only [isBoundary, Bool.or_eq_true, beq_iff_eq] at hboundary
  rcases hboundary with (rfl | rfl) | rfl <;> cases hdigit

/-! ## Outlines -/

/-- What the markup of a component has to do with what it shows. -/
inductive Outline
  | heading
  | text
  | card
  | metric (withUnit : Bool)
  | list (items : Nat)
  /-- A component without a component type. -/
  | placeholder
  /-- A component that its type refused. -/
  | failed
  deriving DecidableEq, Repr

/-- The boundaries of a component, within those of its section. -/
def Outline.boundaries : Outline → List Char
  | .heading => "<\"\"><>".toList
  | .text => "<><>".toList
  | .card => "<\"\"\"\"><><><><><>".toList
  | .metric withUnit =>
    "<\"\"><><><>".toList ++ (if withUnit then "<><>".toList else []) ++ "<><>".toList
  | .list items => "<>".toList ++ (List.replicate items "<><>".toList).flatten ++ "<>".toList
  | .placeholder => "<\"\"\"\"><>".toList
  | .failed => "<\"\"\"\"><>".toList

/-- The boundaries of a page: its container, and a section for each component. -/
def pageBoundaries (outlines : List Outline) : List Char :=
  "<\"\"\"\"\"\">".toList ++
    outlines.flatMap (fun o => "<\"\"\"\">".toList ++ o.boundaries ++ "<>".toList) ++ "<>".toList

/-- The outline of a component, by what came of rendering it. -/
def Component.outline (c : Component) : NodeOutput → Outline
  | .placeholder _ => .placeholder
  | .failed _ => .failed
  | .rendered _ =>
    match c.typeName with
    | "heading" => .heading
    | "text" => .text
    | "card" => .card
    | "metric" => .metric (Builtin.text? c.props "unit").isSome
    -- No other builtin type is left.
    | _ => .list (((c.props.get? "items").bind Value.items?).getD []).length

/-! ## Builtin component types -/

namespace Builtin

variable {props : Props} {ctx : RenderContext} {html : String}

theorem boundaries_heading (h : heading props ctx = .ok html) :
    boundaries html = Outline.heading.boundaries := by
  obtain ⟨text, -, h⟩ := Except.exists_of_bind h
  cases h
  simp only [boundaries_append, boundaries_escape, boundaries_toString]
  rfl

theorem boundaries_paragraph (h : paragraph props ctx = .ok html) :
    boundaries html = Outline.text.boundaries := by
  obtain ⟨text, -, h⟩ := Except.exists_of_bind h
  cases h
  simp only [boundaries_append, boundaries_escape]
  rfl

theorem boundaries_card (h : card props ctx = .ok html) :
    boundaries html = Outline.card.boundaries := by
  obtain ⟨title, -, h⟩ := Except.exists_of_bind h
  cases h
  simp only [boundaries_append, boundaries_escape]
  rfl

theorem boundaries_metric (h : metric props ctx = .ok html) :
    boundaries html = (Outline.metric (text? props "unit").isSome).boundaries := by
  obtain ⟨label, -, h⟩ := Except.exists_of_bind h
  cases hvalue : (props.get? "value").bind shown? with
  | none => rw [hvalue] at h; cases h
  | some value =>
    rw [hvalue] at h
    cases hunit : text? props "unit" with
    | none =>
      rw [hunit] at h
      cases h
      simp only [boundaries_append, boundaries_escape]
      rfl
    | some unit =>
      rw [hunit] at h
      cases h
      simp only [boundaries_append, boundaries_escape]
      rfl

theorem boundaries_item (v : Value) : boundaries (item v) = "<><>".toList := by
  unfold item
  simp only [boundaries_append, boundaries_escape]
  rfl

theorem flatMap_boundaries_items (items : List Value) :
    (items.map item).flatMap boundaries = (List.replicate items.length "<><>".toList).flatten := by
  induction items with
  | nil => rfl
  | cons v items ih =>
    rw [List.map_cons, List.flatMap_cons, boundaries_item, ih]
    rfl

theorem boundaries_list (h : list props ctx = .ok html) :
    boundaries html =
      (Outline.list (((props.get? "items").bind Value.items?).getD []).length).boundaries := by
  unfold list at h
  cases hitems : (props.get? "items").bind Value.items? with
  | none => rw [hitems] at h; cases h
  | some items =>
    rw [hitems] at h
    cases h
    simp only [boundaries_append, boundaries_join, flatMap_boundaries_items]
    rfl

/-- **The boundaries of a builtin component** are those of its outline. -/
theorem boundaries_of_mem_all {c : Component} {type : ComponentType}
    (builtin : (c.typeName, type) ∈ all) (h : type c.props ctx = .ok html) :
    boundaries html = (c.outline (.rendered html)).boundaries := by
  simp only [all, List.mem_cons, Prod.mk.injEq, List.not_mem_nil, or_false] at builtin
  unfold Component.outline
  rcases builtin with ⟨hname, rfl⟩ | ⟨hname, rfl⟩ | ⟨hname, rfl⟩ | ⟨hname, rfl⟩ | ⟨hname, rfl⟩
  · simpa [hname] using boundaries_heading h
  · simpa [hname] using boundaries_paragraph h
  · simpa [hname] using boundaries_card h
  · simpa [hname] using boundaries_metric h
  · simpa [hname] using boundaries_list h

end Builtin

/-! ## Pages -/

variable {r : ComponentRegistry} {page : String}

theorem boundaries_errorHtml (typeName reason : String) :
    boundaries (errorHtml typeName reason) = "<\"\"\"\"><>".toList := by
  unfold errorHtml
  simp only [boundaries_append, boundaries_escape]
  rfl

/-- What was rendered was rendered by a component type of the page. -/
theorem exists_type_of_rendered {c : Component} {theme : Option ResolvedTheme} {html : String}
    (h : c.render r page theme = .rendered html) :
    ∃ type, r.get? page c.typeName = some type ∧ type c.props ⟨page, c.id, theme⟩ = .ok html := by
  unfold Component.render at h
  cases found : r.get? page c.typeName with
  | none => rw [found] at h; cases h
  | some type =>
    rw [found] at h
    dsimp only at h
    cases hhtml : type c.props ⟨page, c.id, theme⟩ with
    | error failure => rw [hhtml] at h; cases h
    | ok html' =>
      rw [hhtml] at h
      cases h
      exact ⟨type, rfl, hhtml⟩

theorem boundaries_contentHtml (builtins : r.OnlyBuiltins page) (c : Component)
    (theme : Option ResolvedTheme) :
    boundaries (c.node r page theme).contentHtml =
      (c.outline (c.render r page theme)).boundaries := by
  unfold ComposedNode.contentHtml Component.node
  dsimp only
  cases hrender : c.render r page theme with
  | placeholder reason => exact boundaries_errorHtml _ _
  | failed reason => exact boundaries_errorHtml _ _
  | rendered html =>
    obtain ⟨type, found, hhtml⟩ := exists_type_of_rendered hrender
    exact Builtin.boundaries_of_mem_all (builtins _ _ found) hhtml

theorem boundaries_css (p : Position) : boundaries p.css = [] := by
  unfold Position.css
  simp only [boundaries_append, boundaries_toString]
  rfl

theorem boundaries_node (builtins : r.OnlyBuiltins page) (c : Component)
    (theme : Option ResolvedTheme) :
    boundaries (c.node r page theme).html =
      "<\"\"\"\">".toList ++ (c.outline (c.render r page theme)).boundaries ++ "<>".toList := by
  unfold ComposedNode.html
  simp only [boundaries_append, boundaries_escape, boundaries_css,
    boundaries_contentHtml builtins]
  rfl

/-- **Text cannot create markup.** -/
theorem boundaries_html (builtins : r.OnlyBuiltins page) (d : Descriptor)
    (theme : Option ResolvedTheme) (filter : ComponentFilter) :
    ((d.compose r page theme).withFilter filter).shown =
      (d.viewed filter).map (fun c => c.node r page theme) ∧
    boundaries ((d.compose r page theme).withFilter filter).html =
      pageBoundaries ((d.viewed filter).map fun c => c.outline (c.render r page theme)) := by
  refine ⟨shown_compose d r page theme filter, ?_⟩
  unfold ComposedPage.html pageBoundaries
  simp only [boundaries_append, boundaries_escape, boundaries_toString, boundaries_join,
    shown_compose, List.flatMap_map, boundaries_node builtins]
  rfl

/-- A page of which the texts look like markup. -/
def loudPage : Descriptor where
  layout := some { kind := "\"><script>" }
  components := some [
    { id := "\" onclick=\"", typeName := "heading", position := { col := 1, row := 1 }
      props := Table.empty.insert "text" (.str "</h2><b>\"&'") },
    { id := "<li>", typeName := "list", position := { col := 1, row := 2 }
      props := Table.empty.insert "items" (.arr [.str "</li>", .obj [("<", .null)]]) },
    { id := ">", typeName := "</div>", position := { col := 2, row := 2 }, props := .empty }]

/-- A page that has the builtin component types. -/
def builtinTypes : ComponentRegistry := ({} : ComponentRegistry).registerBuiltins "<p>"

theorem onlyBuiltins_builtinTypes : builtinTypes.OnlyBuiltins "<p>" :=
  (ComponentRegistry.hasBuiltins_registerBuiltins fun _ _ found => by cases found).onlyBuiltins

theorem boundaries_of_loudPage :
    builtinTypes.OnlyBuiltins "<p>" ∧
    (loudPage.viewed .all).map (fun c => c.outline (c.render builtinTypes "<p>" none)) =
      [.heading, .list 2, .placeholder] ∧
    ((loudPage.compose builtinTypes "<p>" none).withFilter .all).shown =
      (loudPage.viewed .all).map (fun c => c.node builtinTypes "<p>" none) ∧
    boundaries ((loudPage.compose builtinTypes "<p>" none).withFilter .all).html =
      pageBoundaries ((loudPage.viewed .all).map
        fun c => c.outline (c.render builtinTypes "<p>" none)) := by
  refine ⟨onlyBuiltins_builtinTypes, ?_,
    boundaries_html onlyBuiltins_builtinTypes loudPage none .all⟩
  rw [Descriptor.viewed, List.mergeSort_of_pairwise (by decide)]
  decide +kernel

end ThemedPages
