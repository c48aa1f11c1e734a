import ThemedPages.Proofs.Store.Integrity

/-!
# Loaded stores

What an accepted snapshot makes of a store. The loader puts the rows of a snapshot into the tables
one by one, a later row in the place of an earlier one with the same id. That can only take names
and defaults away.

**Theorem (`integrity_of_opened`).** A store that was opened and then asked any sequence of requests
has integrity, and a request that does not succeed leaves it as it is.
-/

namespace ThemedPages.MemoryStore

/-! ## The steps of the loader -/

/-- What every step keeps, a loop that may fail keeps. -/
theorem foldlM_induction {σ α ε : Type} {f : σ → α → Except ε σ} {P : σ → Prop} {xs : List α}
    (step : ∀ x ∈ xs, ∀ s s', P s → f s x = .ok s' → P s') {s s' : σ} (h : P s)
    (hrun : xs.foldlM f s = .ok s') : P s' := by
  induction xs generalizing s with
  | nil =>
    cases hrun
    exact h
  | cons x xs ih =>
    rw [List.foldlM_cons] at hrun
    obtain ⟨s₁, hx, hrun⟩ := Except.exists_of_bind hrun
    exact ih (fun y hy => step y (List.mem_cons_of_mem x hy))
      (step x List.mem_cons_self s s₁ h hx) hrun

variable {s s' : MemoryStore}

theorem loadTheme_ok {t : Theme} (h : s.loadTheme t = .ok s') :
    (∀ q u, s.themes.get? q = some u → u.name ≠ t.name) ∧
      s' = { s with themes := s.themes.insert t.id t } := by
  unfold loadTheme at h
  split at h
  · cases h
  · rename_i hname
    cases h
    exact ⟨name_ne_of_not_any hname, rfl⟩

theorem loadVariation_ok {v : Variation} (h : s.loadVariation v = .ok s') :
    (∃ t, s.themes.get? v.parentId = some t) ∧
      (∀ q u, s.variations.get? q = some u → u.name ≠ v.name) ∧
      s' = { s with variations := s.variations.insert v.id v } := by
  unfold loadVariation at h
  split at h
  · cases h
  · rename_i hparent
    split at h
    · cases h
    · rename_i hname
      cases h
      exact ⟨(Table.contains_iff _ _).1 (by simpa using hparent), name_ne_of_not_any hname, rfl⟩

theorem loadAssignment_ok {a : Assignment} (h : s.loadAssignment a = .ok s') :
    (a.target.isVariation = true → ∃ id, a.target.variationId = some id) ∧
      s' = { s with assignments := s.assignments.insert a.pageId a } := by
  unfold loadAssignment at h
  split at h
  · cases h
  · rename_i hcomplete
    cases h
    refine ⟨fun hvariation => ?_, rfl⟩
    simpa [hvariation, Option.isNone_iff_eq_none, Option.ne_none_iff_exists'] using hcomplete

theorem ofSnapshot_ok {snapshot : StoreSnapshot} (h : ofSnapshot snapshot = .ok s) :
    (snapshot.themes = [] ∨ (snapshot.themes.filter Theme.isDefault).length = 1) ∧
      ∃ s₁ s₂, snapshot.themes.foldlM loadTheme {} = .ok s₁ ∧
        snapshot.variations.foldlM loadVariation s₁ = .ok s₂ ∧
        snapshot.assignments.foldlM loadAssignment s₂ = .ok s := by
  unfold ofSnapshot at h
  simp only at h
  split at h
  · cases h
  · rename_i hcount
    obtain ⟨s₁, h₁, h⟩ := Except.exists_of_bind h
    obtain ⟨s₂, h₂, h₃⟩ := Except.exists_of_bind h
    refine ⟨?_, s₁, s₂, h₁, h₂, h₃⟩
    cases hthemes : snapshot.themes with
    | nil => exact .inl rfl
    | cons t ts => exact .inr (by simpa [hthemes] using hcount)

/-! ## Loaded stores -/

/-- A store that holds some of the themes of a snapshot, and nothing else. -/
structure HoldsThemes (themes : List Theme) (s : MemoryStore) : Prop where
  theme_mem : ∀ id t, s.themes.get? id = some t → t ∈ themes ∧ t.id = id
  theme_names : Distinct s.themes Theme.name
  variations : s.variations = .empty
  assignments : s.assignments = .empty

theorem holdsThemes_loaded {themes : List Theme} {s : MemoryStore}
    (h : themes.foldlM loadTheme {} = .ok s) : HoldsThemes themes s := by
  refine foldlM_induction (P := HoldsThemes themes) (fun t ht s s' hs hstep => ?_) ?_ h
  · obtain ⟨unused, rfl⟩ := loadTheme_ok hstep
    refine { hs with theme_mem := ?_, theme_names := hs.theme_names.insert t.id unused }
    intro id u hu
    rw [Table.get?_insert] at hu
    split_ifs at hu with hid
    · cases hu
      exact ⟨ht, hid.symm⟩
    · exact hs.theme_mem id u hu
  · exact {
      theme_mem := by simp
      theme_names := by simp [Distinct]
      variations := rfl
      assignments := rfl }

theorem eq_of_length_filter_eq_one {α : Type} {xs : List α} {p : α → Bool} {x y : α}
    (h : (xs.filter p).length = 1) (hx : x ∈ xs) (hpx : p x = true) (hy : y ∈ xs)
    (hpy : p y = true) : x = y := by
  obtain ⟨z, hz⟩ := List.length_eq_one_iff.1 h
  have hxz : x ∈ xs.filter p := List.mem_filter.2 ⟨hx, hpx⟩
  have hyz : y ∈ xs.filter p := List.mem_filter.2 ⟨hy, hpy⟩
  rw [hz, List.mem_singleton] at hxz hyz
  rw [hxz, hyz]

theorem HoldsThemes.integrity {themes : List Theme} (h : HoldsThemes themes s)
    (hcount : themes = [] ∨ (themes.filter Theme.isDefault).length = 1) : s.Integrity where
  theme_id id t ht := (h.theme_mem id t ht).2
  variation_id := by simp [h.variations]
  assignment_page := by simp [h.assignments]
  theme_names := h.theme_names
  variation_names := by simp [h.variations, Distinct]
  parent := by simp [h.variations]
  one_default k l t u ht htd hu hud := by
    obtain ⟨htmem, htid⟩ := h.theme_mem k t ht
    obtain ⟨humem, huid⟩ := h.theme_mem l u hu
    rcases hcount with rfl | hone
    · simp at htmem
    · rw [← htid, ← huid, eq_of_length_filter_eq_one hone htmem htd humem hud]
  complete := by simp [h.assignments]

theorem Integrity.loadVariation {v : Variation} (h : s.Integrity)
    (hstep : s.loadVariation v = .ok s') : s'.Integrity := by
  obtain ⟨⟨parent, found⟩, unused, rfl⟩ := loadVariation_ok hstep
  exact h.insertVariation v s.lastNumber found unused

theorem Integrity.loadAssignment {a : Assignment} (h : s.Integrity)
    (hstep : s.loadAssignment a = .ok s') : s'.Integrity := by
  obtain ⟨complete, rfl⟩ := loadAssignment_ok hstep
  exact h.insertAssignment a complete

/-- **Accepted snapshots make stores with integrity.** -/
theorem integrity_loaded {snapshot : StoreSnapshot} (h : ofSnapshot snapshot = .ok s) :
    s.Integrity := by
  obtain ⟨hcount, s₁, s₂, h₁, h₂, h₃⟩ := ofSnapshot_ok h
  have hs₁ : s₁.Integrity := (holdsThemes_loaded h₁).integrity hcount
  have hs₂ : s₂.Integrity :=
    foldlM_induction (fun _ _ _ _ hs hstep => hs.loadVariation hstep) hs₁ h₂
  exact foldlM_induction (fun _ _ _ _ hs hstep => hs.loadAssignment hstep) hs₂ h₃

theorem online_loaded {snapshot : StoreSnapshot} (h : ofSnapshot snapshot = .ok s) :
    s.offline = false := by
  obtain ⟨-, s₁, s₂, h₁, h₂, h₃⟩ := ofSnapshot_ok h
  have hs₁ : s₁.offline = false := by
    refine foldlM_induction (P := fun s => s.offline = false) (fun t _ s s' hs hstep => ?_) rfl h₁
    obtain ⟨-, rfl⟩ := loadTheme_ok hstep
    exact hs
  have hs₂ : s₂.offline = false := by
    refine foldlM_induction (P := fun s => s.offline = false) (fun v _ s s' hs hstep => ?_) hs₁ h₂
    obtain ⟨-, -, rfl⟩ := loadVariation_ok hstep
    exact hs
  refine foldlM_induction (P := fun s => s.offline = false) (fun a _ s s' hs hstep => ?_) hs₂ h₃
  obtain ⟨-, rfl⟩ := loadAssignment_ok hstep
  exact hs

/-! ## Opened stores -/

theorem integrity_opened {snapshot : StoreSnapshot} (h : Opened snapshot s) : s.Integrity := by
  cases h with
  | new => exact integrity_empty
  | loaded h => exact integrity_loaded h

theorem Integrity.run (h : s.Integrity) (calls : List StoreCall) :
    (runCalls calls s).Integrity :=
  runCalls_induction (fun h hc => h.change hc) calls h

/-- **Every reachable store has integrity**, and whatever is asked of it then either succeeds or
leaves it as it is. -/
theorem integrity_of_opened {snapshot : StoreSnapshot} (h : Opened snapshot s)
    (calls : List StoreCall) :
    (runCalls calls s).Integrity ∧
      ∀ call, (perform call (runCalls calls s)).1 ≠ .ok true →
        (perform call (runCalls calls s)).2 = runCalls calls s :=
  ⟨(integrity_opened h).run calls, fun _ => perform_refused⟩

/-- A light default theme and a dark one with a variation, which a page is assigned to. -/
def lightAndDark : StoreSnapshot where
  themes :=
    [{ id := "light", name := "light", displayName := "Light", category := .light,
       colors := .empty, isSystem := true, isDefault := true },
     { id := "dark", name := "dark", displayName := "Dark", category := .dark, colors := .empty }]
  variations :=
    [{ id := "dusk", parentId := "dark", name := "dusk", displayName := "Dusk", depth := 1,
       createdAt := ⟨0, 0⟩ }]
  assignments := [⟨"home", "dark", some "dusk", true⟩]

theorem integrity_of_lightAndDark :
    ∃ s, ofSnapshot lightAndDark = .ok s ∧ (runCalls [.deleteTheme "dark"] s).Integrity ∧
      (perform (.deleteTheme "light") (runCalls [.deleteTheme "dark"] s)).2 =
        runCalls [.deleteTheme "dark"] s := by
  obtain ⟨s, hs⟩ : ∃ s, ofSnapshot lightAndDark = .ok s := ⟨_, rfl⟩
  have h := integrity_of_opened (.loaded hs) [.deleteTheme "dark"]
  refine ⟨s, hs, h.1, h.2 (.deleteTheme "light") ?_⟩
  cases hs
  decide

end ThemedPages.MemoryStore
