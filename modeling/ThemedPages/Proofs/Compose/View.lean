import ThemedPages.Compose.Tree

/-!
# The view of a page

The components of a page stand in an order that the descriptor alone decides, and a filter decides by
what the descriptor says of a component whether it is shown. So the nodes of a page, and those of its
view, are made component by component from lists that depend on no component type and on no theme.

**Theorem (`refiltered_eq_recomposed`).** A page that gets filters one after the other shows what it
shows when it is composed with the last of them: the nodes of the components that this one selects.

A node holds the group and the tags of its component as they were found in free-form properties.
`ComponentFilter.Selects` says what a filter asks of the properties themselves, and
`accepts_facts_iff` that this is what it finds in the node.
-/

namespace ThemedPages

/-! ## Components in view -/

/-- What filters look at. -/
def Component.facts (c : Component) : ComponentFacts := ⟨c.id, c.typeName, c.group, c.tags⟩

/-- The components of a descriptor in the order in which they are shown. -/
def Descriptor.ordered (d : Descriptor) : List Component :=
  d.componentList.mergeSort fun a b => a.position.shownBefore b.position

/-- The components of a descriptor that a filter shows, in the order in which they are shown. -/
def Descriptor.viewed (d : Descriptor) (filter : ComponentFilter) : List Component :=
  (d.componentList.mergeSort fun a b => a.position.shownBefore b.position).filter
    fun c => filter.accepts c.facts

variable (d : Descriptor) (r : ComponentRegistry) (page : String) (theme : Option ResolvedTheme)
  (filter : ComponentFilter)

theorem Descriptor.viewed_eq_filter :
    d.viewed filter = d.ordered.filter fun c => filter.accepts c.facts := rfl

/-- **A composed page holds the components in order.** -/
theorem nodes_compose_eq_map :
    (d.compose r page theme).nodes = d.ordered.map fun c => c.node r page theme := by
  refine (List.map_mergeSort (f := fun c : Component => c.node r page theme) ?_).symm
  exact fun _ _ _ _ => rfl

/-- The view of a composed page holds the components in view. -/
theorem shown_compose : ((d.compose r page theme).withFilter filter).shown =
    (d.viewed filter).map fun c => c.node r page theme := by
  rw [ComposedPage.shown, ComposedPage.withFilter, nodes_compose_eq_map, List.filter_map]
  rfl

/-! ## What filters ask of a descriptor -/

/-- A filter asks for a component of a descriptor. -/
def ComponentFilter.Selects (c : Component) : ComponentFilter → Prop
  | .all => True
  | .group name => c.props.get? "group" = some (.str name)
  | .groups names => ∃ name, names.contains name = true ∧ c.props.get? "group" = some (.str name)
  | .types names => names.contains c.typeName = true
  | .tag name => ∃ items, c.props.get? "tags" = some (.arr items) ∧ .str name ∈ items
  | .custom accepts => accepts c.facts = true

theorem Value.text?_eq_some_iff {v : Value} {s : String} : v.text? = some s ↔ v = .str s := by
  cases v <;> simp [text?]

theorem Value.items?_eq_some_iff {v : Value} {items : List Value} :
    v.items? = some items ↔ v = .arr items := by
  cases v <;> simp [items?]

theorem Component.group_eq_some_iff {c : Component} {name : String} :
    c.group = some name ↔ c.props.get? "group" = some (.str name) := by
  rw [group, Option.bind_eq_some_iff]
  simp only [Value.text?_eq_some_iff, exists_eq_right]

theorem Component.mem_tags_iff {c : Component} {name : String} :
    name ∈ c.tags ↔ ∃ items, c.props.get? "tags" = some (.arr items) ∧ .str name ∈ items := by
  have hitems : ∀ items, (c.props.get? "tags").bind Value.items? = some items ↔
      c.props.get? "tags" = some (.arr items) := by
    intro items
    rw [Option.bind_eq_some_iff]
    simp only [Value.items?_eq_some_iff, exists_eq_right]
  simp only [← hitems]
  unfold tags
  cases (c.props.get? "tags").bind Value.items? with
  | none => simp
  | some items => simp [Value.text?_eq_some_iff]

/-- **What a filter finds in a node** is what it asks of the component. -/
theorem ComponentFilter.accepts_facts_iff (filter : ComponentFilter) (c : Component) :
    filter.accepts c.facts = true ↔ filter.Selects c := by
  cases filter with
  | all => exact iff_of_true rfl trivial
  | group name => exact beq_iff_eq.trans Component.group_eq_some_iff
  | groups names =>
    have hany : c.group.any names.contains = true ↔
        ∃ name, c.group = some name ∧ names.contains name = true := by
      cases c.group <;> simp
    refine hany.trans (exists_congr fun name => ?_)
    rw [Component.group_eq_some_iff, and_comm]
  | types names => exact Iff.rfl
  | tag name => exact List.contains_iff_mem.trans Component.mem_tags_iff
  | custom accepts => exact Iff.rfl

instance (filter : ComponentFilter) (c : Component) : Decidable (filter.Selects c) :=
  decidable_of_iff _ (filter.accepts_facts_iff c)

/-- The components in view are those that the filter selects. -/
theorem Descriptor.viewed_eq_filter_selects :
    d.viewed filter = d.ordered.filter fun c => filter.Selects c := by
  rw [viewed_eq_filter]
  refine List.filter_congr fun c _ => ?_
  rw [Bool.eq_iff_iff, filter.accepts_facts_iff, decide_eq_true_iff]

/-! ## Filters set one after another -/

/-- Of filters set one after another the last one counts. -/
theorem foldl_withFilter (earlier : List ComponentFilter) (p : ComposedPage) :
    (earlier ++ [filter]).foldl ComposedPage.withFilter p = p.withFilter filter := by
  induction earlier generalizing p with
  | nil => rfl
  | cons first earlier ih => exact ih (p.withFilter first)

/-- **Filtering again is composing again.** -/
theorem refiltered_eq_recomposed (earlier : List ComponentFilter) :
    ∃ composed refiltered fresh,
      d.compose r page theme = composed ∧
      (earlier ++ [filter]).foldl ComposedPage.withFilter composed = refiltered ∧
      (d.compose r page theme).withFilter filter = fresh ∧
      refiltered.shown = fresh.shown ∧ refiltered.html = fresh.html ∧
      refiltered.nodes = composed.nodes ∧
      composed.nodes = d.ordered.map (fun c => c.node r page theme) ∧
      fresh.shown = (d.ordered.filter fun c => filter.Selects c).map fun c =>
        c.node r page theme := by
  refine ⟨_, _, _, rfl, rfl, rfl, ?_, ?_, ?_, ?_, ?_⟩
  · rw [foldl_withFilter]
  · rw [foldl_withFilter]
  · rw [foldl_withFilter]
    rfl
  · exact nodes_compose_eq_map d r page theme
  · rw [shown_compose, Descriptor.viewed_eq_filter_selects]

end ThemedPages
