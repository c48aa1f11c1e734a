import ThemedPages.Proofs.Store.Change

/-!
# Integrity of the theme graph

The relations between the tables of a store: every row is stored under its own id, names are
distinct, a variation belongs to a theme, at most one theme is the default, and an assignment of a
variation names one.

**Theorem (`Integrity.change`).** Every change of a store keeps them.

A new theme takes the place of the old default, a changed theme keeps its name, and a deleted theme
takes its variations along. Names are checked before anything is changed.
-/

namespace ThemedPages.MemoryStore

/-! ## Rows with distinct names -/

/-- No two rows have one name. -/
def Distinct (rows : Table α) (nameOf : α → String) : Prop :=
  ∀ k l x y, rows.get? k = some x → rows.get? l = some y → nameOf x = nameOf y → k = l

/-- Rows that were there before under the same names are as distinct as they were. -/
theorem Distinct.of_rows {rows rows' : Table α} {nameOf : α → String} (h : Distinct rows nameOf)
    (old : ∀ k x', rows'.get? k = some x' → ∃ x, rows.get? k = some x ∧ nameOf x = nameOf x') :
    Distinct rows' nameOf := by
  intro k l x' y' hx' hy' hname
  obtain ⟨x, hx, hxname⟩ := old k x' hx'
  obtain ⟨y, hy, hyname⟩ := old l y' hy'
  exact h k l x y hx hy (hxname.trans (hname.trans hyname.symm))

/-- A row with a new name may be put under any id. -/
theorem Distinct.insert {rows : Table α} {nameOf : α → String} (h : Distinct rows nameOf)
    (id : String) {x : α} (unused : ∀ q y, rows.get? q = some y → nameOf y ≠ nameOf x) :
    Distinct (rows.insert id x) nameOf := by
  intro k l y z hy hz hname
  rw [Table.get?_insert] at hy hz
  split_ifs at hy hz with hk hl hl
  · rw [hk, hl]
  · cases hy
    exact absurd hname.symm (unused l z hz)
  · cases hz
    exact absurd hname (unused k y hy)
  · exact h k l y z hy hz hname

theorem Distinct.nodup {rows : Table α} {nameOf : α → String}
    (h : Distinct rows nameOf) : (rows.values.map nameOf).Nodup := by
  rw [Table.values, List.map_map]
  refine List.pairwise_map.2 (rows.sorted.imp_of_mem fun {a b} ha hb hlt => ?_)
  intro hname
  have hkey := h a.1 b.1 a.2 b.2 ((Table.mem_entries_iff _ _ _).1 ha)
    ((Table.mem_entries_iff _ _ _).1 hb) hname
  rw [hkey] at hlt
  exact String.lt_irrefl b.1 hlt

/-! ## The relations -/

/-- The relations that the tables of a store keep. -/
structure Integrity (s : MemoryStore) : Prop where
  theme_id : ∀ id t, s.themes.get? id = some t → t.id = id
  variation_id : ∀ id v, s.variations.get? id = some v → v.id = id
  assignment_page : ∀ page a, s.assignments.get? page = some a → a.pageId = page
  theme_names : Distinct s.themes Theme.name
  variation_names : Distinct s.variations Variation.name
  parent : ∀ id v, s.variations.get? id = some v → ∃ t, s.themes.get? v.parentId = some t
  one_default : ∀ k l t u, s.themes.get? k = some t → t.isDefault = true →
    s.themes.get? l = some u → u.isDefault = true → k = l
  complete : ∀ page a, s.assignments.get? page = some a → a.target.isVariation = true →
    ∃ id, a.target.variationId = some id

theorem integrity_empty : Integrity {} where
  theme_id := by simp
  variation_id := by simp
  assignment_page := by simp
  theme_names := by simp [Distinct]
  variation_names := by simp [Distinct]
  parent := by simp
  one_default := by simp
  complete := by simp

variable {s s' : MemoryStore}

/-! ## Changes of themes -/

theorem get?_demoted (s : MemoryStore) (isDefault : Bool) (q : String) :
    (s.demoted isDefault).get? q =
      (s.themes.get? q).map fun t => { t with isDefault := !isDefault && t.isDefault } := by
  cases isDefault with
  | false => simp [demoted]
  | true => simp [demoted, Table.get?_map]

theorem Integrity.createTheme (h : s.Integrity) (d : ThemeDraft) (id : String) (number : Nat)
    (unused : ∀ q t, s.themes.get? q = some t → t.name ≠ d.name) :
    Integrity { s with
      themes := (s.demoted d.isDefault).insert id (d.toTheme id), lastNumber := number } := by
  -- What is not the new theme was there before, under its name.
  have old : ∀ q t', (s.demoted d.isDefault).get? q = some t' →
      ∃ t, s.themes.get? q = some t ∧ t' = { t with isDefault := !d.isDefault && t.isDefault } := by
    intro q t' ht'
    rw [get?_demoted, Option.map_eq_some_iff] at ht'
    obtain ⟨t, ht, rfl⟩ := ht'
    exact ⟨t, ht, rfl⟩
  refine { h with theme_id := ?_, theme_names := ?_, parent := ?_, one_default := ?_ }
  · intro q t' ht'
    rw [Table.get?_insert] at ht'
    split_ifs at ht' with hq
    · cases ht'
      exact hq.symm
    · obtain ⟨t, ht, rfl⟩ := old q t' ht'
      exact h.theme_id q t ht
  · refine Distinct.insert (h.theme_names.of_rows fun q t' ht' => ?_) id fun q t' ht' => ?_
    · obtain ⟨t, ht, rfl⟩ := old q t' ht'
      exact ⟨t, ht, rfl⟩
    · obtain ⟨t, ht, rfl⟩ := old q t' ht'
      exact unused q t ht
  · intro q v hv
    obtain ⟨t, ht⟩ := h.parent q v hv
    simp only [Table.get?_insert, get?_demoted, ht]
    split_ifs <;> exact ⟨_, rfl⟩
  · intro k l t' u' ht' htd hu' hud
    simp only [Table.get?_insert] at ht' hu'
    split_ifs at ht' hu' with hk hl hl
    · rw [hk, hl]
    · cases ht'
      obtain ⟨u, -, rfl⟩ := old l u' hu'
      simp [show d.isDefault = true from htd] at hud
    · cases hu'
      obtain ⟨t, -, rfl⟩ := old k t' ht'
      simp [show d.isDefault = true from hud] at htd
    · obtain ⟨t, ht, rfl⟩ := old k t' ht'
      obtain ⟨u, hu, rfl⟩ := old l u' hu'
      simp only [Bool.and_eq_true] at htd hud
      exact h.one_default k l t u ht htd.2 hu hud.2

theorem Integrity.updateTheme (h : s.Integrity) (p : ThemePatch) {id : String} {t : Theme}
    (found : s.themes.get? id = some t) :
    Integrity { s with themes := s.themes.insert id (p.apply t) } := by
  -- A changed theme keeps its id, its name and whether it is the default.
  have old : ∀ q t', (s.themes.insert id (p.apply t)).get? q = some t' →
      ∃ t, s.themes.get? q = some t ∧ t'.id = t.id ∧ t'.name = t.name ∧
        t'.isDefault = t.isDefault := by
    intro q t' ht'
    rw [Table.get?_insert] at ht'
    split_ifs at ht' with hq
    · cases ht'
      exact ⟨t, hq ▸ found, rfl, rfl, rfl⟩
    · exact ⟨t', ht', rfl, rfl, rfl⟩
  refine { h with theme_id := ?_, theme_names := ?_, parent := ?_, one_default := ?_ }
  · intro q t' ht'
    obtain ⟨t, ht, hid, -, -⟩ := old q t' ht'
    rw [hid, h.theme_id q t ht]
  · refine h.theme_names.of_rows fun q t' ht' => ?_
    obtain ⟨t, ht, -, hname, -⟩ := old q t' ht'
    exact ⟨t, ht, hname.symm⟩
  · intro q v hv
    obtain ⟨u, hu⟩ := h.parent q v hv
    simp only [Table.get?_insert, hu]
    split_ifs <;> exact ⟨_, rfl⟩
  · intro k l t' u' ht' htd hu' hud
    obtain ⟨t, ht, -, -, htdefault⟩ := old k t' ht'
    obtain ⟨u, hu, -, -, hudefault⟩ := old l u' hu'
    exact h.one_default k l t u ht (htdefault ▸ htd) hu (hudefault ▸ hud)

theorem Integrity.deleteTheme (h : s.Integrity) (id : String) :
    Integrity { s with
      themes := s.themes.erase id
      variations := s.variations.filter fun _ v => v.parentId != id } := by
  have themes_old : ∀ q t, (s.themes.erase id).get? q = some t → s.themes.get? q = some t := by
    intro q t ht
    rw [Table.get?_erase] at ht
    split_ifs at ht
    exact ht
  have variations_old : ∀ q v, (s.variations.filter fun _ v => v.parentId != id).get? q = some v →
      s.variations.get? q = some v ∧ v.parentId ≠ id := by
    intro q v hv
    rw [Table.get?_filter, Option.filter_eq_some_iff] at hv
    exact ⟨hv.1, by simpa using hv.2⟩
  refine { h with
    theme_id := fun q t ht => h.theme_id q t (themes_old q t ht)
    variation_id := fun q v hv => h.variation_id q v (variations_old q v hv).1
    theme_names := h.theme_names.of_rows fun q t ht => ⟨t, themes_old q t ht, rfl⟩
    variation_names := h.variation_names.of_rows fun q v hv => ⟨v, (variations_old q v hv).1, rfl⟩
    parent := ?_
    one_default := fun k l t u ht htd hu hud =>
      h.one_default k l t u (themes_old k t ht) htd (themes_old l u hu) hud }
  intro q v hv
  obtain ⟨hv, hparent⟩ := variations_old q v hv
  obtain ⟨t, ht⟩ := h.parent q v hv
  exact ⟨t, by rw [Table.get?_erase, if_neg hparent]; exact ht⟩

theorem Integrity.setDefaultTheme (h : s.Integrity) (id : String) :
    Integrity { s with themes := s.themes.map fun t => { t with isDefault := t.id == id } } := by
  have old : ∀ q t', (s.themes.map fun t => { t with isDefault := t.id == id }).get? q = some t' →
      ∃ t, s.themes.get? q = some t ∧ t' = { t with isDefault := t.id == id } := by
    intro q t' ht'
    rw [Table.get?_map, Option.map_eq_some_iff] at ht'
    obtain ⟨t, ht, rfl⟩ := ht'
    exact ⟨t, ht, rfl⟩
  refine { h with theme_id := ?_, theme_names := ?_, parent := ?_, one_default := ?_ }
  · intro q t' ht'
    obtain ⟨t, ht, rfl⟩ := old q t' ht'
    exact h.theme_id q t ht
  · refine h.theme_names.of_rows fun q t' ht' => ?_
    obtain ⟨t, ht, rfl⟩ := old q t' ht'
    exact ⟨t, ht, rfl⟩
  · intro q v hv
    obtain ⟨t, ht⟩ := h.parent q v hv
    exact ⟨_, by rw [Table.get?_map, ht]; rfl⟩
  · intro k l t' u' ht' htd hu' hud
    obtain ⟨t, ht, rfl⟩ := old k t' ht'
    obtain ⟨u, hu, rfl⟩ := old l u' hu'
    have hk : t.id = id := by simpa using htd
    have hl : u.id = id := by simpa using hud
    rw [← h.theme_id k t ht, ← h.theme_id l u hu, hk, hl]

/-! ## Changes of variations and assignments -/

theorem Integrity.insertVariation (h : s.Integrity) (v : Variation) (number : Nat) {parent : Theme}
    (found : s.themes.get? v.parentId = some parent)
    (unused : ∀ q u, s.variations.get? q = some u → u.name ≠ v.name) :
    Integrity { s with variations := s.variations.insert v.id v, lastNumber := number } := by
  refine { h with
    variation_id := ?_
    variation_names := h.variation_names.insert v.id unused
    parent := ?_ }
  · intro q u hu
    rw [Table.get?_insert] at hu
    split_ifs at hu with hq
    · cases hu
      exact hq.symm
    · exact h.variation_id q u hu
  · intro q u hu
    rw [Table.get?_insert] at hu
    split_ifs at hu
    · cases hu
      exact ⟨parent, found⟩
    · exact h.parent q u hu

theorem Integrity.insertAssignment (h : s.Integrity) (a : Assignment)
    (complete : a.target.isVariation = true → ∃ id, a.target.variationId = some id) :
    Integrity { s with assignments := s.assignments.insert a.pageId a } := by
  refine { h with assignment_page := ?_, complete := ?_ }
  · intro q b hb
    rw [Table.get?_insert] at hb
    split_ifs at hb with hq
    · cases hb
      exact hq.symm
    · exact h.assignment_page q b hb
  · intro q b hb
    rw [Table.get?_insert] at hb
    split_ifs at hb
    · cases hb
      exact complete
    · exact h.complete q b hb

theorem Integrity.deleteAssignment (h : s.Integrity) (page : String) :
    Integrity { s with assignments := s.assignments.erase page } := by
  have old : ∀ q a, (s.assignments.erase page).get? q = some a →
      s.assignments.get? q = some a := by
    intro q a ha
    rw [Table.get?_erase] at ha
    split_ifs at ha
    exact ha
  exact { h with
    assignment_page := fun q a ha => h.assignment_page q a (old q a ha)
    complete := fun q a ha => h.complete q a (old q a ha) }

/-- **Every change keeps the relations.** -/
theorem Integrity.change (h : s.Integrity) {call : StoreCall} (hc : Change s call s') :
    s'.Integrity := by
  cases hc with
  | nothing => exact h
  | createTheme d _ _ unused => exact h.createTheme d _ _ unused
  | updateTheme p found _ => exact h.updateTheme p found
  | deleteTheme => exact h.deleteTheme _
  | setDefaultTheme => exact h.setDefaultTheme _
  | createVariation d _ _ found unused =>
    exact h.insertVariation (d.toVariation _ _) _ found unused
  | assign page target complete => exact h.insertAssignment ⟨page, target⟩ complete
  | deleteAssignment page => exact h.deleteAssignment page
  | setOffline => exact { h with }

end ThemedPages.MemoryStore
