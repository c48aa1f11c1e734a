import ThemedPages.Proofs.Engine.Steps

/-!
# System themes

The store neither changes nor deletes a system theme, and an engine creates none: what a user gives
for a new theme becomes a draft of an ordinary one. A new record gets a free id, so it takes the
place of nothing, and a theme that is deleted takes only its own variations along.

**Theorem (`keepsSystemThemes_runCalls`).** Whatever was done to a store before, calls of an engine
leave its system themes as they are, but for which of them is the default, and leave all variations
of system themes as they are.
-/

namespace ThemedPages

/-- A theme without regard to whether it is the default. -/
def Theme.unmarked (t : Theme) : Theme := { t with isDefault := false }

namespace MemoryStore

/-- The system themes, whichever is the default. -/
def systemThemes (s : MemoryStore) : Table Theme :=
  (s.themes.filter fun _ t => t.isSystem).map Theme.unmarked

/-- A variation belongs to a system theme. -/
def OfSystemTheme (s : MemoryStore) (v : Variation) : Prop :=
  ∃ t, s.themes.get? v.parentId = some t ∧ t.isSystem = true

/-- A store has the system themes of an earlier one, and all their variations. -/
structure KeepsSystemThemes (s s' : MemoryStore) : Prop where
  themes : s'.systemThemes = s.systemThemes
  variations : ∀ id v, s.variations.get? id = some v → s.OfSystemTheme v →
    s'.variations.get? id = some v

variable {s s' s'' : MemoryStore} {call : StoreCall}

/-! ## System themes of a table -/

theorem get?_systemThemes (s : MemoryStore) (id : String) :
    s.systemThemes.get? id = ((s.themes.get? id).filter Theme.isSystem).map Theme.unmarked := by
  rw [systemThemes, Table.get?_map, Table.get?_filter]

theorem ofSystemTheme_iff {v : Variation} :
    s.OfSystemTheme v ↔ ∃ t, s.systemThemes.get? v.parentId = some t := by
  rw [OfSystemTheme, get?_systemThemes]
  cases s.themes.get? v.parentId with
  | none => simp
  | some t => cases hsystem : t.isSystem <;> simp [Option.filter, hsystem]

/-- Themes that are only marked in another way are the same system themes. -/
theorem systemThemes_of_marks (mark : Theme → Bool)
    (hthemes : ∀ id, s'.themes.get? id =
      (s.themes.get? id).map fun t => { t with isDefault := mark t }) :
    s'.systemThemes = s.systemThemes := by
  apply Table.ext_get?
  intro id
  rw [get?_systemThemes, get?_systemThemes, hthemes]
  cases s.themes.get? id with
  | none => rfl
  | some t => cases hsystem : t.isSystem <;> simp [Option.filter, hsystem, Theme.unmarked]

/-- A row that neither was nor becomes a system theme may change. -/
theorem systemThemes_of_row (id : String)
    (others : ∀ q, q ≠ id → s'.themes.get? q = s.themes.get? q)
    (was : ∀ t, s.themes.get? id = some t → t.isSystem = false)
    (becomes : ∀ t, s'.themes.get? id = some t → t.isSystem = false) :
    s'.systemThemes = s.systemThemes := by
  have hnone : ∀ row : Option Theme, (∀ t, row = some t → t.isSystem = false) →
      row.filter Theme.isSystem = none := by
    intro row hrow
    rw [Option.filter_eq_none_iff]
    intro t ht
    rw [hrow t ht]
    exact Bool.false_ne_true
  apply Table.ext_get?
  intro q
  rw [get?_systemThemes, get?_systemThemes]
  by_cases hq : q = id
  · subst hq
    rw [hnone _ was, hnone _ becomes]
  · rw [others q hq]

/-! ## Changes -/

/-- **A change leaves the system themes**, unless it creates one. -/
theorem systemThemes_change (hc : Change s call s')
    (custom : ∀ d, call = .createTheme d → d.isSystem = false) :
    s'.systemThemes = s.systemThemes := by
  cases hc with
  | createTheme d next named unused =>
    subst next named
    -- The others may lose their mark first, and then the new one is put under a free id.
    let s₁ : MemoryStore := { s with themes := s.demoted d.isDefault }
    have hdemoted : s₁.systemThemes = s.systemThemes :=
      systemThemes_of_marks (fun t => !d.isDefault && t.isDefault) (get?_demoted s _)
    have hfree := (hasId_eq_false_iff.1 (s.hasId_freshNumber "theme")).1
    rw [← hdemoted]
    refine systemThemes_of_row (numberedId "theme" (s.freshNumber "theme"))
      (fun q hq => ?_) (fun t ht => ?_) fun t ht => ?_
    · simp only [Table.get?_insert, if_neg hq, s₁]
    · rw [get?_demoted, hfree] at ht
      cases ht
    · rw [Table.get?_insert_self] at ht
      cases ht
      exact custom d rfl
  | @updateTheme p id t found ordinary =>
    refine systemThemes_of_row id (fun q hq => ?_) (fun u hu => ?_) fun u hu => ?_
    · simp only [Table.get?_insert, if_neg hq]
    · rw [found] at hu
      cases hu
      exact ordinary
    · rw [Table.get?_insert_self] at hu
      cases hu
      exact ordinary
  | @deleteTheme id t found ordinary =>
    refine systemThemes_of_row id (fun q hq => ?_) (fun u hu => ?_) fun u hu => ?_
    · simp only [Table.get?_erase, if_neg hq]
    · rw [found] at hu
      cases hu
      exact ordinary
    · rw [Table.get?_erase, if_pos rfl] at hu
      cases hu
  | @setDefaultTheme id t found =>
    exact systemThemes_of_marks (fun t => t.id == id) fun q => Table.get?_map _ _ q
  | nothing | createVariation | assign | deleteAssignment | setOffline => rfl

theorem keepsSystemThemes_change (hc : Change s call s')
    (custom : ∀ d, call = .createTheme d → d.isSystem = false) : s.KeepsSystemThemes s' where
  themes := systemThemes_change hc custom
  variations := fun _ _ hv ⟨_, ht, system⟩ => systemVariation_change hc hv ht system

theorem keepsSystemThemes_refl (s : MemoryStore) : s.KeepsSystemThemes s :=
  ⟨rfl, fun _ _ hv _ => hv⟩

theorem KeepsSystemThemes.trans (h : s.KeepsSystemThemes s') (h' : s'.KeepsSystemThemes s'') :
    s.KeepsSystemThemes s'' := by
  refine ⟨h'.themes.trans h.themes, fun id v hv hsystem => ?_⟩
  -- The parent is a system theme in between as well.
  have hsystem' : s'.OfSystemTheme v := by
    rw [ofSystemTheme_iff, h.themes, ← ofSystemTheme_iff]
    exact hsystem
  exact h'.variations id v (h.variations id v hv hsystem) hsystem'

end MemoryStore

/-! ## Calls of an engine -/

namespace ThemeEngine

variable {e : ThemeEngine MemoryStore}

theorem keepsSystemThemes_perform (h : e.store.Integrity) (call : EngineCall) :
    e.store.KeepsSystemThemes (perform call e).2.store := by
  rcases store_perform h call with hsame | ⟨edit, makes, hchange⟩
  · rw [hsame]
    exact MemoryStore.keepsSystemThemes_refl e.store
  · refine MemoryStore.keepsSystemThemes_change hchange ?_
    rintro draft rfl
    cases makes with
    | createTheme drafted => exact (draft_ordinary drafted).2

/-- **System themes are immutable** for an engine. -/
theorem keepsSystemThemes_runCalls (h : e.ReachableWithEdits) (calls : List EngineCall) :
    e.store.KeepsSystemThemes (runCalls calls e).store := by
  induction calls generalizing e with
  | nil => exact MemoryStore.keepsSystemThemes_refl e.store
  | cons call calls ih =>
    exact (keepsSystemThemes_perform h.integrity call).trans (ih (h.call call))

/-- A system theme loses its place as the default, and then someone tries to delete it. -/
def demotedThenDeleted : List EngineCall := [.setDefaultTheme "dark", .deleteTheme "light"]

theorem keepsSystemThemes_of_lightAndDark :
    ∃ s, MemoryStore.ofSnapshot MemoryStore.lightAndDark = .ok s ∧
      s.systemThemes.keys = ["light"] ∧
      (runCalls demotedThenDeleted { store := s }).store.defaultTheme?.map Theme.id =
        some "dark" ∧
      s.KeepsSystemThemes (runCalls demotedThenDeleted { store := s }).store := by
  obtain ⟨s, hs⟩ : ∃ s, MemoryStore.ofSnapshot MemoryStore.lightAndDark = .ok s := ⟨_, rfl⟩
  have hkept := keepsSystemThemes_runCalls (.opened (.loaded hs) none) demotedThenDeleted
  refine ⟨s, hs, ?_, ?_, hkept⟩
  · cases hs
    decide
  · cases hs
    decide

end ThemeEngine

end ThemedPages
