import ThemedPages.Proofs.Store.Loading
import ThemedPages.Proofs.Tables

/-!
# The rows of a loaded store

The loader puts every theme and every variation of a snapshot under its id, and every assignment
under its page, after checks that look at neither. So the tables of a loaded store are those of the
lists, with a later row in the place of an earlier one.

**Theorem (`rows_kept_iff`).** A loaded store holds the rows of its snapshot, each as often as the
snapshot, just when no two themes and no two variations have one id and no page has two assignments.

**Theorem (`ofSnapshot_eq_ok`).** A snapshot whose names are distinct, and whose variations and
assignments are complete, is loaded.
-/

namespace ThemedPages

/-- The store with the rows of a snapshot, the last one of each key. -/
def StoreSnapshot.tables (s : StoreSnapshot) : MemoryStore where
  themes := .keyed Theme.id s.themes
  variations := .keyed Variation.id s.variations
  assignments := .keyed Assignment.pageId s.assignments

namespace MemoryStore

variable {snapshot : StoreSnapshot} {s s' : MemoryStore}

/-! ## Loops -/

/-- A loop that went through did the steps that it tells of. -/
theorem eq_foldl_of_foldlM {σ α ε : Type} {f : σ → α → Except ε σ} {g : σ → α → σ}
    {xs : List α} (step : ∀ s x s', f s x = .ok s' → s' = g s x) {s s' : σ}
    (hrun : xs.foldlM f s = .ok s') : s' = xs.foldl g s := by
  induction xs generalizing s with
  | nil =>
    cases hrun
    rfl
  | cons x xs ih =>
    rw [List.foldlM_cons] at hrun
    obtain ⟨s₁, hx, hrun⟩ := Except.exists_of_bind hrun
    rw [List.foldl_cons, ← step s x s₁ hx]
    exact ih hrun

/-- A loop goes through if every step does after the steps before it. -/
theorem foldlM_eq_ok {σ α ε : Type} {f : σ → α → Except ε σ} {g : σ → α → σ} {xs : List α}
    {s : σ} (step : ∀ before x after, xs = before ++ x :: after →
      f (before.foldl g s) x = .ok (g (before.foldl g s) x)) :
    xs.foldlM f s = .ok (xs.foldl g s) := by
  induction xs generalizing s with
  | nil => rfl
  | cons x xs ih =>
    have hfirst : f s x = .ok (g s x) := step [] x xs rfl
    rw [List.foldlM_cons, hfirst, Except.bind_of_ok, List.foldl_cons]
    exact ih fun before y after hxs => step (x :: before) y after (by rw [hxs]; rfl)

/-! ## The tables of a snapshot -/

/-- The store with a theme more. -/
def withTheme (s : MemoryStore) (t : Theme) : MemoryStore :=
  { s with themes := s.themes.insert t.id t }

/-- The store with a variation more. -/
def withVariation (s : MemoryStore) (v : Variation) : MemoryStore :=
  { s with variations := s.variations.insert v.id v }

/-- The store with an assignment more. -/
def withAssignment (s : MemoryStore) (a : Assignment) : MemoryStore :=
  { s with assignments := s.assignments.insert a.pageId a }

theorem foldl_withTheme (themes : List Theme) :
    themes.foldl withTheme {} = { themes := .keyed Theme.id themes } := by
  rw [Table.keyed_eq_foldl]
  exact List.foldl_hom (fun table => ({ themes := table } : MemoryStore)) fun _ _ => rfl

theorem foldl_withVariation (themes : Table Theme) (variations : List Variation) :
    variations.foldl withVariation { themes } =
      { themes, variations := .keyed Variation.id variations } := by
  rw [Table.keyed_eq_foldl]
  exact List.foldl_hom (fun table => ({ themes, variations := table } : MemoryStore)) fun _ _ => rfl

theorem foldl_withAssignment (themes : Table Theme) (variations : Table Variation)
    (assignments : List Assignment) :
    assignments.foldl withAssignment { themes, variations } =
      { themes, variations, assignments := .keyed Assignment.pageId assignments } := by
  rw [Table.keyed_eq_foldl]
  exact List.foldl_hom (fun table => ({ themes, variations, assignments := table } : MemoryStore))
    fun _ _ => rfl

/-- **A loaded store has the tables of its snapshot**, and nothing else. -/
theorem eq_tables (h : ofSnapshot snapshot = .ok s) : s = snapshot.tables := by
  obtain ⟨-, s₁, s₂, h₁, h₂, h₃⟩ := ofSnapshot_ok h
  have hs₁ := eq_foldl_of_foldlM (g := withTheme)
    (fun _ _ _ hstep => (loadTheme_ok hstep).2) h₁
  rw [foldl_withTheme] at hs₁
  subst hs₁
  have hs₂ := eq_foldl_of_foldlM (g := withVariation)
    (fun _ _ _ hstep => (loadVariation_ok hstep).2.2) h₂
  rw [foldl_withVariation] at hs₂
  subst hs₂
  have hs := eq_foldl_of_foldlM (g := withAssignment)
    (fun _ _ _ hstep => (loadAssignment_ok hstep).2) h₃
  rw [foldl_withAssignment] at hs
  exact hs

/-! ## Snapshots that are accepted -/

/-- What a snapshot needs to be loaded, when its names are distinct. -/
structure Loadable (snapshot : StoreSnapshot) : Prop where
  one_default : snapshot.themes = [] ∨ (snapshot.themes.filter Theme.isDefault).length = 1
  theme_names : (snapshot.themes.map Theme.name).Nodup
  variation_names : (snapshot.variations.map Variation.name).Nodup
  parent : ∀ v ∈ snapshot.variations, v.parentId ∈ snapshot.themes.map Theme.id
  complete : ∀ a ∈ snapshot.assignments, a.target.isVariation = true →
    ∃ id, a.target.variationId = some id

theorem not_any_keyed {α : Type} {key nameOf : α → String} {before after : List α} {x : α}
    (h : ((before ++ x :: after).map nameOf).Nodup) :
    ((Table.keyed key before).values.any fun y => nameOf y == nameOf x) = false := by
  rw [List.any_eq_false]
  intro y hy hname
  rw [List.map_append, List.map_cons, List.nodup_append] at h
  exact h.2.2 (nameOf y) (List.mem_map_of_mem (Table.mem_of_mem_keyed hy)) (nameOf x)
    List.mem_cons_self (beq_iff_eq.1 hname)

/-- **Snapshots in order are loaded.** -/
theorem ofSnapshot_eq_ok (h : Loadable snapshot) : ofSnapshot snapshot = .ok snapshot.tables := by
  have hthemes : snapshot.themes.foldlM loadTheme {} =
      .ok { themes := .keyed Theme.id snapshot.themes } := by
    rw [← foldl_withTheme]
    refine foldlM_eq_ok fun before t after hlist => ?_
    have hname := h.theme_names
    rw [hlist] at hname
    simp only [foldl_withTheme, loadTheme, not_any_keyed hname]
    rfl
  have hvariations : snapshot.variations.foldlM loadVariation
      { themes := .keyed Theme.id snapshot.themes } =
        .ok { themes := .keyed Theme.id snapshot.themes,
              variations := .keyed Variation.id snapshot.variations } := by
    rw [← foldl_withVariation]
    refine foldlM_eq_ok fun before v after hlist => ?_
    have hname := h.variation_names
    have hparent := (Table.contains_keyed_iff _).2 (h.parent v (by simp [hlist]))
    rw [hlist] at hname
    simp only [foldl_withVariation, loadVariation, hparent, not_any_keyed hname]
    rfl
  have hassignments : snapshot.assignments.foldlM loadAssignment
      { themes := .keyed Theme.id snapshot.themes,
        variations := .keyed Variation.id snapshot.variations } = .ok snapshot.tables := by
    rw [StoreSnapshot.tables, ← foldl_withAssignment]
    refine foldlM_eq_ok fun before a after hlist => ?_
    rw [loadAssignment, if_neg]
    · rfl
    · intro hmissing
      simp only [Bool.and_eq_true, Option.isNone_iff_eq_none] at hmissing
      obtain ⟨id, hid⟩ := h.complete a (by simp [hlist]) hmissing.1
      rw [hid] at hmissing
      exact Option.some_ne_none id hmissing.2
  have hcount : ¬ (!snapshot.themes.isEmpty &&
      (snapshot.themes.filter Theme.isDefault).length != 1) = true := by
    rcases h.one_default with hnone | hone
    · simp [hnone]
    · simp [hone]
  simp only [ofSnapshot, if_neg hcount, hthemes, Except.bind_of_ok, hvariations, hassignments]

/-! ## Rows that are kept -/

/-- **No row is lost just when no two have one key.** -/
theorem rows_kept_iff (h : ofSnapshot snapshot = .ok s) :
    (s.snapshot.themes.Perm snapshot.themes ∧ s.snapshot.variations.Perm snapshot.variations ∧
        s.snapshot.assignments.Perm snapshot.assignments) ↔
      (snapshot.themes.map Theme.id).Nodup ∧ (snapshot.variations.map Variation.id).Nodup ∧
        (snapshot.assignments.map Assignment.pageId).Nodup := by
  rw [eq_tables h]
  exact and_congr Table.values_keyed_perm_iff
    (and_congr Table.values_keyed_perm_iff Table.values_keyed_perm_iff)

theorem rows_kept_of_lightAndDark :
    ∃ s, ofSnapshot lightAndDark = .ok s ∧ s.snapshot.themes.Perm lightAndDark.themes ∧
      s.snapshot.variations.Perm lightAndDark.variations ∧
      s.snapshot.assignments.Perm lightAndDark.assignments := by
  obtain ⟨s, hs⟩ : ∃ s, ofSnapshot lightAndDark = .ok s := ⟨_, rfl⟩
  exact ⟨s, hs, (rows_kept_iff hs).2 ⟨by decide, by decide, by decide⟩⟩

/-- A default theme, two themes of one id, two variations of one id, and two assignments of one
page. -/
def doubled : StoreSnapshot where
  themes :=
    [{ id := "light", name := "light", displayName := "Light", category := .light,
       colors := .empty, isDefault := true },
     { id := "twin", name := "first", displayName := "First", category := .dark, colors := .empty },
     { id := "twin", name := "second", displayName := "Second", category := .dark,
       colors := .empty }]
  variations :=
    [{ id := "dusk", parentId := "light", name := "dusk", displayName := "Dusk", depth := 1,
       createdAt := ⟨0, 0⟩ },
     { id := "dusk", parentId := "light", name := "late", displayName := "Late", depth := 1,
       createdAt := ⟨0, 0⟩ }]
  assignments := [⟨"home", "light", none, false⟩, ⟨"home", "twin", none, false⟩]

/-- **Rows of one key are loaded as one.** -/
theorem rows_lost :
    ∃ s, ofSnapshot doubled = .ok s ∧ s.snapshot.themes.length = 2 ∧
      s.snapshot.variations.length = 1 ∧ s.snapshot.assignments.length = 1 ∧
      ¬ s.snapshot.themes.Perm doubled.themes ∧
      ¬ s.snapshot.variations.Perm doubled.variations ∧
      ¬ s.snapshot.assignments.Perm doubled.assignments := by
  refine ⟨doubled.tables, rfl, by decide, by decide, by decide, ?_, ?_, ?_⟩
  · exact fun h => absurd h.length_eq (by decide)
  · exact fun h => absurd h.length_eq (by decide)
  · exact fun h => absurd h.length_eq (by decide)

end MemoryStore

end ThemedPages
