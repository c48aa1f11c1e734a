import ThemedPages.Proofs.Store.Loading

/-!
# The default theme

A theme becomes the default in three ways: the snapshot marks it, it is created so, or it is made
so later. Nothing else gives a store a default theme, and nothing takes it away again, because the
default theme is not deleted and a new default takes the place of the old one.

**Theorem (`one_default_iff`).** A store never has two default themes. It has one as soon as a
theme was made the default in one of the three ways, and none before. Only what the snapshot marks
may be lost, where a theme of the same id follows.

A theme created in an empty store is not made the default on its own (`no_default_without_mark`), so
a store with themes may have none.
-/

namespace ThemedPages

/-- Whether a request makes a theme the default when it succeeds. -/
def StoreCall.setsDefault : StoreCall → Bool
  | .createTheme draft => draft.isDefault
  | .setDefaultTheme _ => true
  | _ => false

namespace MemoryStore

/-- The default themes. -/
def defaults (s : MemoryStore) : List Theme := s.themes.values.filter Theme.isDefault

/-- Some request of a sequence made a theme the default. -/
def MadeDefault : List StoreCall → MemoryStore → Prop
  | [], _ => False
  | call :: calls, s =>
    (call.setsDefault = true ∧ (perform call s).1 = .ok true) ∨
      MadeDefault calls (perform call s).2

/-- Some theme is the default. -/
def HasDefault (s : MemoryStore) : Prop :=
  ∃ id t, s.themes.get? id = some t ∧ t.isDefault = true

variable {s s' : MemoryStore}

/-! ## Counting -/

theorem defaults_eq_nil_iff : s.defaults = [] ↔ ¬ s.HasDefault := by
  simp only [defaults, List.filter_eq_nil_iff, Table.mem_values_iff, HasDefault]
  constructor
  · rintro h ⟨id, t, ht, hd⟩
    exact h t ⟨id, ht⟩ hd
  · rintro h t ⟨id, ht⟩ hd
    exact h ⟨id, t, ht, hd⟩

theorem Integrity.length_defaults_le_one (h : s.Integrity) : s.defaults.length ≤ 1 :=
  Table.length_filter_values_le_one h.one_default

theorem Integrity.length_defaults_eq_one_iff (h : s.Integrity) :
    s.defaults.length = 1 ↔ s.HasDefault := by
  have hle := h.length_defaults_le_one
  have hnil := defaults_eq_nil_iff (s := s)
  rw [← List.length_eq_zero_iff] at hnil
  by_cases hd : s.HasDefault
  · have hne : ¬ s.defaults.length = 0 := fun h0 => hnil.1 h0 hd
    exact iff_of_true (by omega) hd
  · have h0 := hnil.2 hd
    exact iff_of_false (by omega) hd

theorem defaultTheme?_eq_none_iff : s.defaultTheme? = none ↔ ¬ s.HasDefault := by
  rw [← defaults_eq_nil_iff, defaultTheme?, defaults, List.find?_eq_none, List.filter_eq_nil_iff]

/-! ## Changes -/

/-- **One change.** There is a default theme afterwards if there was one before, or if the request
makes one. -/
theorem Integrity.hasDefault_change (h : s.Integrity) {call : StoreCall}
    (hc : Change s call s') : s'.HasDefault ↔ s.HasDefault ∨ call.setsDefault = true := by
  cases hc with
  | nothing reads =>
    have : call.setsDefault = false := by cases call <;> first | rfl | cases reads
    simp [this]
  | createTheme d next named unused =>
    subst next named
    constructor
    · rintro ⟨q, t', ht', hd⟩
      simp only [Table.get?_insert, get?_demoted] at ht'
      split_ifs at ht' with hq
      · cases ht'
        exact .inr hd
      · obtain ⟨t, ht, rfl⟩ := Option.map_eq_some_iff.1 ht'
        simp only [Bool.and_eq_true] at hd
        exact .inl ⟨q, t, ht, hd.2⟩
    · intro hdefault
      by_cases hnew : d.isDefault = true
      · exact ⟨_, _, Table.get?_insert_self _ _ _, hnew⟩
      · obtain ⟨q, t, ht, hd⟩ := hdefault.resolve_right hnew
        -- The old default is not overwritten, because the id of the new theme is free.
        have hq := theme_ne_of_free (s.hasId_freshNumber "theme") ht
        refine ⟨q, { t with isDefault := !d.isDefault && t.isDefault }, ?_, ?_⟩
        · simp only [Table.get?_insert, if_neg hq, get?_demoted, ht, Option.map_some]
        · simp [hd, hnew]
  | @updateTheme p id t found custom =>
    simp only [StoreCall.setsDefault, Bool.false_eq_true, or_false]
    constructor
    · rintro ⟨q, t', ht', hd⟩
      simp only [Table.get?_insert] at ht'
      split_ifs at ht' with hq
      · cases ht'
        exact ⟨id, t, found, hd⟩
      · exact ⟨q, t', ht', hd⟩
    · rintro ⟨q, u, hu, hd⟩
      by_cases hq : q = id
      · rw [hq, found] at hu
        cases hu
        exact ⟨id, p.apply t, Table.get?_insert_self _ _ _, hd⟩
      · exact ⟨q, u, by simp only [Table.get?_insert, if_neg hq, hu], hd⟩
  | @deleteTheme id t found custom ordinary =>
    simp only [StoreCall.setsDefault, Bool.false_eq_true, or_false]
    constructor
    · rintro ⟨q, u, hu, hd⟩
      simp only [Table.get?_erase] at hu
      split_ifs at hu
      exact ⟨q, u, hu, hd⟩
    · rintro ⟨q, u, hu, hd⟩
      have hq : q ≠ id := by
        rintro rfl
        rw [found] at hu
        cases hu
        simp [ordinary] at hd
      exact ⟨q, u, by simp only [Table.get?_erase, if_neg hq, hu], hd⟩
  | @setDefaultTheme id t found =>
    refine iff_of_true ⟨id, { t with isDefault := t.id == id }, ?_, ?_⟩ (.inr rfl)
    · simp only [Table.get?_map, found, Option.map_some]
    · simp [h.theme_id id t found]
  | createVariation | assign | deleteAssignment | setOffline =>
    simp [HasDefault, StoreCall.setsDefault]

/-- **Sequences of requests.** -/
theorem Integrity.hasDefault_run (h : s.Integrity) (calls : List StoreCall) :
    (runCalls calls s).HasDefault ↔ s.HasDefault ∨ MadeDefault calls s := by
  induction calls generalizing s with
  | nil => simp [runCalls, MadeDefault]
  | cons call calls ih =>
    have hrun : runCalls (call :: calls) s = runCalls calls (perform call s).2 := rfl
    rw [hrun]
    rcases performed call s with ⟨hok, hc⟩ | ⟨hrefused, hsame⟩
    · rw [ih (h.change hc), h.hasDefault_change hc, MadeDefault, or_assoc]
      simp only [hok, and_true]
    · rw [hsame, ih h, MadeDefault, hsame]
      simp only [hrefused, and_false, false_or]

/-! ## Snapshots -/

/-- Themes with distinct ids are all kept. -/
theorem get?_loaded {themes : List Theme} (distinct : (themes.map Theme.id).Nodup)
    (h : themes.foldlM loadTheme s = .ok s') :
    (∀ t ∈ themes, s'.themes.get? t.id = some t) ∧
      ∀ q, q ∉ themes.map Theme.id → s'.themes.get? q = s.themes.get? q := by
  induction themes generalizing s with
  | nil =>
    cases h
    simp
  | cons t themes ih =>
    rw [List.map_cons, List.nodup_cons] at distinct
    rw [List.foldlM_cons] at h
    obtain ⟨s₁, hstep, h⟩ := Except.exists_of_bind h
    obtain ⟨-, rfl⟩ := loadTheme_ok hstep
    obtain ⟨hmem, hother⟩ := ih distinct.2 h
    constructor
    · intro u hu
      rcases List.mem_cons.1 hu with rfl | hu
      · rw [hother u.id distinct.1]
        exact Table.get?_insert_self _ _ _
      · exact hmem u hu
    · intro q hq
      simp only [List.map_cons, List.mem_cons, not_or] at hq
      rw [hother q hq.2, Table.get?_insert, if_neg hq.1]

theorem themes_loaded {snapshot : StoreSnapshot} (h : ofSnapshot snapshot = .ok s) :
    ∃ s₁, snapshot.themes.foldlM loadTheme {} = .ok s₁ ∧ s.themes = s₁.themes := by
  obtain ⟨-, s₁, s₂, h₁, h₂, h₃⟩ := ofSnapshot_ok h
  have hs₂ : s₂.themes = s₁.themes := by
    refine foldlM_induction (P := fun s => s.themes = s₁.themes)
      (fun v _ s s' hs hstep => ?_) rfl h₂
    obtain ⟨-, -, rfl⟩ := loadVariation_ok hstep
    exact hs
  refine ⟨s₁, h₁, ?_⟩
  refine foldlM_induction (P := fun s => s.themes = s₁.themes) (fun a _ s s' hs hstep => ?_) hs₂ h₃
  obtain ⟨-, rfl⟩ := loadAssignment_ok hstep
  exact hs

theorem hasDefault_opened_iff {snapshot : StoreSnapshot} (h : Opened snapshot s)
    (distinct : (snapshot.themes.map Theme.id).Nodup) :
    s.HasDefault ↔ snapshot.themes ≠ [] := by
  cases h with
  | new => simp [HasDefault]
  | loaded h =>
    obtain ⟨s₁, h₁, hthemes⟩ := themes_loaded h
    constructor
    · rintro ⟨id, t, ht, -⟩ hnil
      rw [hthemes] at ht
      have hmem := ((holdsThemes_loaded h₁).theme_mem id t ht).1
      simp [hnil] at hmem
    · intro hne
      have hone := (ofSnapshot_ok h).1.resolve_left hne
      obtain ⟨t, ht⟩ := List.length_eq_one_iff.1 hone
      have hmem : t ∈ snapshot.themes.filter Theme.isDefault := by
        rw [ht]
        exact List.mem_singleton_self t
      obtain ⟨hmem, hd⟩ := List.mem_filter.1 hmem
      exact ⟨t.id, t, by rw [hthemes]; exact (get?_loaded distinct h₁).1 t hmem, hd⟩

/-! ## The default of a reachable store -/

/-- A store that answers names no default theme just when it has none. -/
theorem getDefaultTheme_eq_none_iff (hon : s.offline = false) :
    (ThemeStore.getDefaultTheme s).1 = .ok none ↔ ¬ s.HasDefault := by
  have hask : (ThemeStore.getDefaultTheme s).1 = .ok s.defaultTheme? := by
    simp [ThemeStore.getDefaultTheme, read, hon]
  rw [hask, Except.ok.injEq, defaultTheme?_eq_none_iff]

/-- **One default theme, once there was one.** What was made the default stays so. What the snapshot
marks is sure to be kept where its themes have distinct ids. -/
theorem one_default_iff {snapshot : StoreSnapshot} (h : Opened snapshot s)
    (calls : List StoreCall) :
    (runCalls calls s).defaults.length ≤ 1 ∧
      ((runCalls calls s).defaults.length = 1 ↔ s.defaults.length = 1 ∨ MadeDefault calls s) ∧
      ((runCalls calls s).offline = false →
        ((ThemeStore.getDefaultTheme (runCalls calls s)).1 = .ok none ↔
          s.defaults.length ≠ 1 ∧ ¬ MadeDefault calls s)) ∧
      ((snapshot.themes.map Theme.id).Nodup →
        ((runCalls calls s).defaults.length = 1 ↔
            snapshot.themes ≠ [] ∨ MadeDefault calls s) ∧
          ((runCalls calls s).offline = false →
            ((ThemeStore.getDefaultTheme (runCalls calls s)).1 = .ok none ↔
              snapshot.themes = [] ∧ ¬ MadeDefault calls s))) := by
  have hstart := integrity_opened h
  have hrun := hstart.run calls
  have hdefault : (runCalls calls s).HasDefault ↔ s.HasDefault ∨ MadeDefault calls s :=
    hstart.hasDefault_run calls
  refine ⟨hrun.length_defaults_le_one, ?_, fun hon => ?_, fun distinct => ?_⟩
  · rw [hrun.length_defaults_eq_one_iff, hstart.length_defaults_eq_one_iff, hdefault]
  · rw [getDefaultTheme_eq_none_iff hon, ne_eq, hstart.length_defaults_eq_one_iff, hdefault, not_or]
  · rw [hasDefault_opened_iff h distinct] at hdefault
    refine ⟨hrun.length_defaults_eq_one_iff.trans hdefault, fun hon => ?_⟩
    rw [getDefaultTheme_eq_none_iff hon, hdefault, not_or, not_not]

theorem one_default_of_lightAndDark :
    ∃ s, Opened lightAndDark s ∧ (lightAndDark.themes.map Theme.id).Nodup ∧
      (runCalls [.setDefaultTheme "dark", .deleteTheme "light"] s).defaults.length = 1 := by
  obtain ⟨s, hs⟩ : ∃ s, ofSnapshot lightAndDark = .ok s := ⟨_, rfl⟩
  have distinct : (lightAndDark.themes.map Theme.id).Nodup := by decide
  have h := one_default_iff (.loaded hs) [.setDefaultTheme "dark", .deleteTheme "light"]
  exact ⟨s, .loaded hs, distinct, (h.2.2.2 distinct).1.2 (.inl (by decide))⟩

/-- A theme that is not the default. -/
def plainDraft : ThemeDraft where
  name := "plain"
  displayName := "Plain"
  category := .light
  colors := .empty

/-- A default theme, and another theme of the same id, which takes its place. -/
def twins : StoreSnapshot where
  themes :=
    [{ id := "twin", name := "first", displayName := "First", category := .light,
       colors := .empty, isDefault := true },
     { id := "twin", name := "second", displayName := "Second", category := .light,
       colors := .empty }]

/-- **Themes without a default.** The first theme of a new store stays an ordinary one, and a
default theme is lost when a theme of the same id follows in the snapshot. -/
theorem no_default_without_mark :
    (∃ s, Opened {} s ∧ (runCalls [.createTheme plainDraft] s).themes.values.length = 1 ∧
      (runCalls [.createTheme plainDraft] s).defaults.length = 0 ∧
      (ThemeStore.getDefaultTheme (runCalls [.createTheme plainDraft] s)).1 = .ok none) ∧
    ∃ s, Opened twins s ∧ s.themes.values.length = 1 ∧ s.defaults.length = 0 :=
  ⟨⟨{}, .new, by decide, by decide, by decide⟩, ⟨_, .loaded rfl, by decide, by decide⟩⟩

end MemoryStore

end ThemedPages
