import ThemedPages.Component.Probe
import ThemedPages.Proofs.Component.Builtins
import ThemedPages.Proofs.Compose.View
import Mathlib.Data.List.Forall2

/-!
# Components without a type

A component is degraded if its page does not have its type, or if the type refuses what it is given.
Nothing else of a page depends on that: the order and the view are of the descriptor, and a component
type sees its own component only.

**Theorem (`degradation_stays_apart`).** Two registries that have the same types for a page but for
one make the same page of a descriptor, except for what is shown of components of this one type. On
each of the two pages the degraded components are those without a type that takes them.
-/

namespace ThemedPages

variable {r r₁ r₂ : ComponentRegistry} {page t : String}

/-! ## Degraded components -/

/-- The page does not have the type of a component, or the type refuses. -/
inductive Component.Degrades (c : Component) (r : ComponentRegistry) (page : String)
    (theme : Option ResolvedTheme) : Prop
  | missing (absent : r.get? page c.typeName = none)
  | refused {type : ComponentType} {failure : Failure} (found : r.get? page c.typeName = some type)
      (refuses : type c.props ⟨page, c.id, theme⟩ = .error failure)

/-- **What is not rendered is degraded.** -/
theorem Component.degrades_iff (c : Component) (theme : Option ResolvedTheme) :
    c.Degrades r page theme ↔ (c.render r page theme).isRendered = false := by
  unfold render
  constructor
  · intro h
    cases h with
    | missing absent =>
      rw [absent]
      rfl
    | refused found refuses =>
      rw [found]
      dsimp only
      rw [refuses]
      rfl
  · intro h
    cases found : r.get? page c.typeName with
    | none => exact .missing found
    | some type =>
      rw [found] at h
      dsimp only at h
      cases outcome : type c.props ⟨page, c.id, theme⟩ with
      | error failure => exact .refused found outcome
      | ok html =>
        rw [outcome] at h
        cases h

instance (c : Component) (theme : Option ResolvedTheme) : Decidable (c.Degrades r page theme) :=
  decidable_of_iff _ (c.degrades_iff theme).symm

/-- A page as it is made of a descriptor, component by component: the components in order, those that
are shown, and those that are degraded. -/
structure ComposedPage.MadeOf (p : ComposedPage) (d : Descriptor) (r : ComponentRegistry)
    (theme : Option ResolvedTheme) (filter : ComponentFilter) : Prop where
  nodes : p.nodes = d.ordered.map fun c => c.node r p.id theme
  shown : p.shown = (d.viewed filter).map fun c => c.node r p.id theme
  degraded : p.degraded = (d.ordered.filter fun c => c.Degrades r p.id theme).map fun c =>
    c.node r p.id theme

theorem madeOf_compose (d : Descriptor) (r : ComponentRegistry) (page : String)
    (theme : Option ResolvedTheme) (filter : ComponentFilter) :
    ((d.compose r page theme).withFilter filter).MadeOf d r theme filter where
  nodes := nodes_compose_eq_map d r page theme
  shown := shown_compose d r page theme filter
  degraded := by
    have hnodes : ((d.compose r page theme).withFilter filter).nodes =
        d.ordered.map fun c => c.node r page theme := nodes_compose_eq_map d r page theme
    rw [ComposedPage.degraded, hnodes, List.filter_map]
    refine congrArg _ (List.filter_congr fun c _ => ?_)
    rw [Bool.eq_iff_iff, decide_eq_true_iff, c.degrades_iff, ← Bool.not_eq_true']
    rfl

/-! ## Two registries -/

/-- Two nodes differ at most in what is shown of them, and not even in that if they are not of a
type. -/
structure ComposedNode.AgreesBut (t : String) (m n : ComposedNode) : Prop where
  rest : n = { m with output := n.output }
  eq_of_ne : m.typeName ≠ t → n = m

/-- **A component depends on its own type only.** -/
theorem Component.node_congr {c : Component}
    (h : r₁.get? page c.typeName = r₂.get? page c.typeName) (theme : Option ResolvedTheme) :
    c.node r₁ page theme = c.node r₂ page theme := by
  have hrender : c.render r₁ page theme = c.render r₂ page theme := by
    rw [render, h]
    rfl
  rw [node, hrender]
  rfl

theorem Component.agreesBut_node
    (agree : ∀ name, name ≠ t → r₁.get? page name = r₂.get? page name) (c : Component)
    (theme : Option ResolvedTheme) :
    (c.node r₁ page theme).AgreesBut t (c.node r₂ page theme) where
  rest := rfl
  eq_of_ne hne := (c.node_congr (agree c.typeName hne) theme).symm

theorem forall₂_agreesBut (agree : ∀ name, name ≠ t → r₁.get? page name = r₂.get? page name)
    (cs : List Component) (theme : Option ResolvedTheme) :
    List.Forall₂ (ComposedNode.AgreesBut t) (cs.map fun c => c.node r₁ page theme)
      (cs.map fun c => c.node r₂ page theme) := by
  rw [List.forall₂_map_left_iff, List.forall₂_map_right_iff, List.forall₂_same]
  exact fun c _ => Component.agreesBut_node agree c theme

/-- **A component without a type degrades alone.** -/
theorem degradation_stays_apart
    (agree : ∀ name, name ≠ t → r₁.get? page name = r₂.get? page name) (d : Descriptor)
    (theme : Option ResolvedTheme) (filter : ComponentFilter) :
    ∃ p₁ p₂, (d.compose r₁ page theme).withFilter filter = p₁ ∧
      (d.compose r₂ page theme).withFilter filter = p₂ ∧
      p₂ = { p₁ with nodes := p₂.nodes } ∧
      List.Forall₂ (ComposedNode.AgreesBut t) p₁.nodes p₂.nodes ∧
      List.Forall₂ (ComposedNode.AgreesBut t) p₁.shown p₂.shown ∧
      p₁.MadeOf d r₁ theme filter ∧ p₂.MadeOf d r₂ theme filter := by
  have hmade₁ := madeOf_compose d r₁ page theme filter
  have hmade₂ := madeOf_compose d r₂ page theme filter
  refine ⟨_, _, rfl, rfl, rfl, ?_, ?_, hmade₁, hmade₂⟩
  · rw [hmade₁.nodes, hmade₂.nodes]
    exact forall₂_agreesBut agree d.ordered theme
  · rw [hmade₁.shown, hmade₂.shown]
    exact forall₂_agreesBut agree (d.viewed filter) theme

/-- A page with a chart, and a note below it. -/
def chartedPage : Descriptor where
  components := some [
    { id := "sales", typeName := "chart", position := { col := 1, row := 1 }, props := .empty },
    { id := "intro", typeName := "note", position := { col := 1, row := 2 }, props := .empty }]

/-- Component types without charts. -/
def withoutCharts : ComponentRegistry :=
  ({} : ComponentRegistry).register "home" "note" (Probe.echo "note")

/-- The same component types, and charts that always fail. -/
def withFailingCharts : ComponentRegistry :=
  withoutCharts.register "home" "chart" (Probe.failing (.conflict "no data"))

theorem get?_withFailingCharts (name : String) (hne : name ≠ "chart") :
    withoutCharts.get? "home" name = withFailingCharts.get? "home" name := by
  rw [withFailingCharts, ComponentRegistry.get?_register, if_neg fun h => hne h.2]

theorem degradation_of_charts :
    (∀ name, name ≠ "chart" →
      withoutCharts.get? "home" name = withFailingCharts.get? "home" name) ∧
    ∃ p₁ p₂, (chartedPage.compose withoutCharts "home" none).withFilter .all = p₁ ∧
      (chartedPage.compose withFailingCharts "home" none).withFilter .all = p₂ ∧
      List.Forall₂ (ComposedNode.AgreesBut "chart") p₁.nodes p₂.nodes ∧
      p₁.degraded.map ComposedNode.output = [.placeholder "unknown component type 'chart'"] ∧
      p₂.degraded.map ComposedNode.output = [.failed "conflict: no data"] := by
  obtain ⟨p₁, p₂, h₁, h₂, -, hnodes, -, hmade₁, hmade₂⟩ :=
    degradation_stays_apart get?_withFailingCharts chartedPage none .all
  have hordered : chartedPage.ordered = chartedPage.componentList :=
    List.mergeSort_of_pairwise (by decide)
  refine ⟨get?_withFailingCharts, p₁, p₂, h₁, h₂, hnodes, ?_, ?_⟩
  · rw [hmade₁.degraded, ← h₁, hordered]
    decide +kernel
  · rw [hmade₂.degraded, ← h₂, hordered]
    decide +kernel

end ThemedPages
