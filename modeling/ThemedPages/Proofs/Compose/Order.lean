import ThemedPages.Compose.Tree
import ThemedPages.Proofs.Descriptor.Rules
import Mathlib.Data.List.Nodup
import Mathlib.Tactic.MkIffOfInductiveProp

/-!
# The order of a page

The components of a page are sorted by a relation of their positions: those with an order of their
own come first, by it, by row and by column, and then the others, by row and by column.

**Theorem (`compose_nodes`).** A composed page has a node for each component of the descriptor and
no other, in this order; nodes that it leaves open stay as they are in the document. If the
descriptor breaks no rule, a component is found under its id.

`Position.Precedes` is total and transitive, so that sorting by it works, and it relates positions
with equal keys, so that sorting leaves them alone. An id leads to the first node that has it, which
is the right one, since no two components of a descriptor without breaches have one id.
-/

namespace ThemedPages

/-! ## Positions in order -/

namespace Position

variable {a b c : Position}

/-- The row and then the column. -/
def place (p : Position) : ℕ ×ₗ ℕ := toLex (p.row.toNat, p.col.toNat)

/-- One position comes before another, or either may. -/
@[mk_iff]
inductive Precedes (a b : Position) : Prop
  | bothOrdered {m n : Int64} (ha : a.order = some m) (hb : b.order = some n)
      (le : toLex (m.toInt, a.place) ≤ toLex (n.toInt, b.place))
  | firstOrdered {m : Int64} (ha : a.order = some m) (hb : b.order = none)
  | noneOrdered (ha : a.order = none) (hb : b.order = none) (le : a.place ≤ b.place)

/-- What the order of positions depends on. -/
def key (p : Position) : Option Int64 × UInt32 × UInt32 := (p.order, p.row, p.col)

theorem Precedes.trans (hab : a.Precedes b) (hbc : b.Precedes c) : a.Precedes c := by
  cases hab with
  | bothOrdered ha hb le =>
    cases hbc with
    | bothOrdered hb' hc le' =>
      cases hb.symm.trans hb'
      exact .bothOrdered ha hc (le.trans le')
    | firstOrdered _ hc => exact .firstOrdered ha hc
    | noneOrdered hb' => nomatch hb.symm.trans hb'
  | firstOrdered ha hb =>
    cases hbc with
    | bothOrdered hb' => nomatch hb.symm.trans hb'
    | firstOrdered hb' => nomatch hb.symm.trans hb'
    | noneOrdered _ hc => exact .firstOrdered ha hc
  | noneOrdered ha hb le =>
    cases hbc with
    | bothOrdered hb' => nomatch hb.symm.trans hb'
    | firstOrdered hb' => nomatch hb.symm.trans hb'
    | noneOrdered _ hc le' => exact .noneOrdered ha hc (le.trans le')

theorem precedes_total (a b : Position) : a.Precedes b ∨ b.Precedes a := by
  cases ha : a.order with
  | some m =>
    cases hb : b.order with
    | some n =>
      rcases le_total (toLex (m.toInt, a.place)) (toLex (n.toInt, b.place)) with le | le
      · exact .inl (.bothOrdered ha hb le)
      · exact .inr (.bothOrdered hb ha le)
    | none => exact .inl (.firstOrdered ha hb)
  | none =>
    cases hb : b.order with
    | some n => exact .inr (.firstOrdered hb ha)
    | none =>
      rcases le_total a.place b.place with le | le
      · exact .inl (.noneOrdered ha hb le)
      · exact .inr (.noneOrdered hb ha le)

theorem place_le_iff : a.place ≤ b.place ↔
    (a.row < b.row || (a.row == b.row && a.col ≤ b.col)) = true := by
  simp [place, Prod.Lex.toLex_le_toLex, UInt32.lt_iff_toNat_lt, UInt32.le_iff_toNat_le,
    UInt32.toNat_inj]

theorem toLex_order_le_iff {m n : Int64} : toLex (m.toInt, a.place) ≤ toLex (n.toInt, b.place) ↔
    m < n ∨ m = n ∧ a.place ≤ b.place := by
  simp [Prod.Lex.toLex_le_toLex, Int64.lt_iff_toInt_lt, Int64.toInt_inj]

/-- **Pages are sorted by this relation.** -/
theorem shownBefore_iff : a.shownBefore b = true ↔ a.Precedes b := by
  rw [precedes_iff]
  unfold shownBefore
  cases a.order <;> cases b.order <;> simp [toLex_order_le_iff, place_le_iff]

theorem precedes_of_key_eq (h : a.key = b.key) : a.Precedes b := by
  obtain ⟨horder, hplace⟩ := Prod.mk.inj h
  obtain ⟨hrow, hcol⟩ := Prod.mk.inj hplace
  have heq : a.place = b.place := by rw [place, place, hrow, hcol]
  cases ha : a.order with
  | some m => exact .bothOrdered ha (horder ▸ ha) (by rw [heq])
  | none => exact .noneOrdered ha (horder ▸ ha) heq.le

end Position

/-! ## Sorted nodes -/

/-- A node is for a component as the descriptor has it. -/
structure ComposedNode.IsFor (n : ComposedNode) (c : Component) : Prop where
  id : n.id = c.id
  typeName : n.typeName = c.typeName
  position : n.position = c.position
  group : n.group = c.group
  tags : n.tags = c.tags
  style : n.style = c.style

theorem Component.isFor_node (c : Component) (components : ComponentRegistry) (page : String)
    (theme : Option ResolvedTheme) : (c.node components page theme).IsFor c :=
  ⟨rfl, rfl, rfl, rfl, rfl, rfl⟩

/-- The nodes of a list in the order of a page. -/
def sortNodes (nodes : List ComposedNode) : List ComposedNode :=
  nodes.mergeSort fun a b => a.position.shownBefore b.position

section sortNodes

variable (nodes : List ComposedNode)

theorem sortNodes_perm : (sortNodes nodes).Perm nodes := List.mergeSort_perm _ _

theorem shownBefore_trans (l m n : ComposedNode)
    (hlm : l.position.shownBefore m.position = true)
    (hmn : m.position.shownBefore n.position = true) :
    l.position.shownBefore n.position = true := by
  rw [Position.shownBefore_iff] at *
  exact hlm.trans hmn

theorem shownBefore_total (m n : ComposedNode) :
    (m.position.shownBefore n.position || n.position.shownBefore m.position) = true := by
  rw [Bool.or_eq_true, Position.shownBefore_iff, Position.shownBefore_iff]
  exact Position.precedes_total m.position n.position

theorem pairwise_sortNodes :
    (sortNodes nodes).Pairwise fun m n => m.position.Precedes n.position := by
  refine (List.pairwise_mergeSort shownBefore_trans shownBefore_total nodes).imp ?_
  intro m n h
  exact Position.shownBefore_iff.1 h

/-- **Sorting keeps the order of nodes with one key.** They stand in it without gaps or more, since
there are as many after sorting as before. -/
theorem filter_sortNodes (key : Option Int64 × UInt32 × UInt32) :
    (sortNodes nodes).filter (fun n => n.position.key == key) =
      nodes.filter fun n => n.position.key == key := by
  have hkey : ∀ n ∈ nodes.filter (fun n => n.position.key == key), n.position.key = key := by
    simp
  have hsorted : (nodes.filter fun n => n.position.key == key).Pairwise
      fun m n => m.position.shownBefore n.position = true := by
    refine List.pairwise_of_forall_mem_list ?_
    intro m hm n hn
    rw [Position.shownBefore_iff]
    exact Position.precedes_of_key_eq ((hkey m hm).trans (hkey n hn).symm)
  have hsub := List.sublist_mergeSort shownBefore_trans shownBefore_total hsorted
    List.filter_sublist
  have hfilter := hsub.filter fun n => n.position.key == key
  rw [List.filter_filter] at hfilter
  simp only [Bool.and_self] at hfilter
  exact (hfilter.eq_of_length ((sortNodes_perm nodes).filter _).length_eq.symm).symm

end sortNodes

/-! ## Composed pages -/

theorem nodes_compose (d : Descriptor) (components : ComponentRegistry) (page : String)
    (theme : Option ResolvedTheme) : (d.compose components page theme).nodes =
      sortNodes (d.componentList.map fun c => c.node components page theme) := rfl

/-- In a list in which no two have one id, each is found under its own. -/
theorem find?_id_of_nodup {nodes : List ComposedNode} (h : (nodes.map ComposedNode.id).Nodup)
    {n : ComposedNode} (hn : n ∈ nodes) : nodes.find? (fun m => m.id == n.id) = some n := by
  cases hfind : nodes.find? fun m => m.id == n.id with
  | none =>
    rw [List.find?_eq_none] at hfind
    exact absurd (beq_self_eq_true n.id) (hfind n hn)
  | some m =>
    have hid : m.id = n.id := by simpa using List.find?_some hfind
    rw [List.inj_on_of_nodup_map h (List.mem_of_find?_eq_some hfind) hn hid]

/-- The ids of a page are those of its components. -/
theorem map_id_nodes (d : Descriptor) (components : ComponentRegistry) (page : String)
    (theme : Option ResolvedTheme) : ((d.compose components page theme).nodes.map
      ComposedNode.id).Perm (d.componentList.map Component.id) := by
  rw [nodes_compose]
  refine ((sortNodes_perm _).map _).trans (.of_eq ?_)
  rw [List.map_map]
  rfl

theorem get?_compose {d : Descriptor} (hvalid : d.validate.issues = [])
    {c : Component} (hc : c ∈ d.componentList) (components : ComponentRegistry) (page : String)
    (theme : Option ResolvedTheme) :
    (d.compose components page theme).get? c.id = some (c.node components page theme) := by
  have hnodup : ((d.compose components page theme).nodes.map ComposedNode.id).Nodup :=
    (map_id_nodes d components page theme).nodup_iff.2 (d.nodup_ids_of_valid hvalid)
  refine find?_id_of_nodup (n := c.node components page theme) hnodup ?_
  rw [nodes_compose]
  exact (sortNodes_perm _).mem_iff.2 (List.mem_map_of_mem hc)

/-- **No component is lost or misplaced.** -/
theorem compose_nodes (d : Descriptor) (components : ComponentRegistry) (page : String)
    (theme : Option ResolvedTheme) :
    ∃ p made, d.compose components page theme = p ∧
      d.componentList.map (·.node components page theme) = made ∧
      List.Forall₂ ComposedNode.IsFor made d.componentList ∧
      p.shown = p.nodes ∧
      p.nodes.Perm made ∧
      p.nodes.Pairwise (fun m n => m.position.Precedes n.position) ∧
      (∀ key, p.nodes.filter (fun n => n.position.key == key) =
        made.filter fun n => n.position.key == key) ∧
      (d.validate.issues = [] →
        ∀ c ∈ d.componentList, p.get? c.id = some (c.node components page theme)) := by
  refine ⟨_, _, rfl, rfl, ?_, ?_, ?_, ?_, ?_, ?_⟩
  · rw [List.forall₂_map_left_iff, List.forall₂_same]
    exact fun c _ => c.isFor_node components page theme
  · exact List.filter_eq_self.2 fun _ _ => rfl
  · exact sortNodes_perm _
  · exact pairwise_sortNodes _
  · exact filter_sortNodes _
  · exact fun hvalid c hc => get?_compose hvalid hc components page theme

/-- A valid page, on which the second component is pinned to the top. -/
def pinnedPage : Descriptor where
  page := some ⟨"Home", "/", ""⟩
  layout := some {}
  components := some [
    { id := "hero", typeName := "card", position := { col := 1, row := 1 }, props := .empty },
    { id := "news", typeName := "card", position := { col := 1, row := 2, order := some 1 },
      props := .empty }]

theorem compose_nodes_of_pinnedPage :
    pinnedPage.validate.issues = [] ∧
      ((pinnedPage.compose {} "home" none).get? "hero").map ComposedNode.position =
        some { col := 1, row := 1 } := by
  obtain ⟨p, made, rfl, rfl, -, -, -, -, -, hget⟩ := compose_nodes pinnedPage {} "home" none
  have hvalid : pinnedPage.validate.issues = [] := by decide +kernel
  have hhero := hget hvalid _ List.mem_cons_self
  refine ⟨hvalid, ?_⟩
  rw [show (pinnedPage.compose {} "home" none).get? "hero" = _ from hhero]
  rfl

end ThemedPages
