import ThemedPages.Proofs.Engine.Refusal
import ThemedPages.Proofs.Engine.RetiredIds
import ThemedPages.Proofs.Engine.Visibility

/-!
# Announced changes

What an engine announces covers a page if it is for this page, if it is for everything, or if it is
for the theme that the page showed or for the one that its variation came from.

**Theorem (`announced_iff`).** A call that changes what a page shows announces that, unless it makes
a theme the default and the page has none of its own; or it creates what the page is assigned to
already; or it removes the assignment of a page that shows nothing without it.
-/

namespace ThemedPages

/-- An announced change is for a page that showed a theme before. -/
def ThemeChange.Covers (page : String) (before : Option ResolvedTheme) : ThemeChange → Prop
  | .page q _ => q = page
  | .invalidated id => ∃ t, before = some t ∧ t.BelongsTo id
  | .refreshed => True

namespace ThemeEngine

/-- The theme that a page is served, if it is served any. -/
def shown (page : String) (e : ThemeEngine MemoryStore) : Option ResolvedTheme :=
  (pageTheme page e).1.toOption

/-- What a call announces. -/
def published (call : EngineCall) (e : ThemeEngine MemoryStore) : List ThemeChange :=
  (perform call e).2.changes.drop e.changes.length

/-- A call announces something that covers a page. -/
def Announced (call : EngineCall) (page : String) (e : ThemeEngine MemoryStore) : Prop :=
  ∃ change ∈ published call e, change.Covers page (shown page e)

/-- The calls that may change what a page shows and announce nothing for it. -/
inductive Silent (page : String) (e : ThemeEngine MemoryStore) : EngineCall → Prop
  /-- There is another default theme, and the page has none of its own. -/
  | setDefaultTheme {id : String} (unowned : e.store.ownTheme? page = none) :
      Silent page e (.setDefaultTheme id)
  /-- The new theme is what the page is assigned to. -/
  | createTheme {data : NewTheme} {t : ResolvedTheme} (missing : e.store.ownTheme? page = none)
      (found : (perform (.createTheme data) e).2.store.ownTheme? page = some t) :
      Silent page e (.createTheme data)
  /-- The new variation is what the page is assigned to. -/
  | createVariation {parentId : String} {data : NewVariation} {now : Instant} {t : ResolvedTheme}
      (missing : e.store.ownTheme? page = none)
      (found : (perform (.createVariation parentId data now) e).2.store.ownTheme? page = some t) :
      Silent page e (.createVariation parentId data now)
  /-- Nothing is left for the page to show. -/
  | resetTheme (stranded : Stranded page e) : Silent page e (.resetTheme page)

variable {e : ThemeEngine MemoryStore} {call : EngineCall} {page id : String}

/-! ## What is announced -/

theorem announced_of_changes {change : ThemeChange}
    (hchanges : (perform call e).2.changes = e.changes ++ [change])
    (covers : change.Covers page (shown page e)) : Announced call page e := by
  refine ⟨change, ?_, covers⟩
  rw [published, hchanges, List.drop_left]
  exact List.mem_singleton_self change

theorem not_announced_of_changes (hchanges : (perform call e).2.changes = e.changes) :
    ¬ Announced call page e := by
  rintro ⟨change, hmem, -⟩
  rw [published, hchanges, List.drop_length] at hmem
  cases hmem

theorem changes_pageTheme (h : e.store.Integrity) (page : String) :
    (pageTheme page e).2.changes = e.changes := by
  have hserved := served_pageTheme h page
  generalize (pageTheme page e).1 = outcome at hserved
  generalize (pageTheme page e).2 = next at hserved ⊢
  cases hserved <;> rfl

/-- Assigning a page announces its theme, if it is done. -/
theorem changes_applyTheme (h : e.store.Integrity) {isVariation : Bool}
    (done : (perform (.applyTheme page id isVariation) e).2.store ≠ e.store) :
    ∃ t, (perform (.applyTheme page id isVariation) e).2.changes = e.changes ++ [.page page t] := by
  rw [perform, run_discard] at done ⊢
  obtain ⟨_, t, _, _, -, -, -, -, hrun⟩ :=
    (run_applyTheme h page id isVariation).resolve_left fun hrefused => done hrefused.store_eq
  exact ⟨t, by rw [hrun]; rfl⟩

/-- Removing an assignment announces the theme that the page has then, if it has one. -/
theorem changes_resetTheme (h : e.store.Integrity) (online : e.store.offline = false)
    (page : String) :
    ((∃ failure, (perform (.resetTheme page) e).1 = .error failure) ∧
        (perform (.resetTheme page) e).2.changes = e.changes) ∨
      ((perform (.resetTheme page) e).1 = .ok () ∧
        ∃ t, (perform (.resetTheme page) e).2.changes = e.changes ++ [.page page t]) := by
  have hs : (e.unassigned page).store.Integrity := h.change (.deleteAssignment page)
  have hchanges : (pageTheme page (e.unassigned page)).2.changes = e.changes :=
    changes_pageTheme hs page
  rw [perform, run_discard, run_resetTheme online]
  generalize pageTheme page (e.unassigned page) = served at hchanges ⊢
  obtain ⟨outcome, next⟩ := served
  cases outcome with
  | error failure => exact .inl ⟨⟨failure, rfl⟩, hchanges⟩
  | ok t =>
    refine .inr ⟨rfl, t, ?_⟩
    show next.changes ++ [.page page t] = e.changes ++ [.page page t]
    rw [show next.changes = e.changes from hchanges]

/-- Changing a theme announces it, if it is done. -/
theorem changes_updateTheme {patch : ThemePatch}
    (done : (perform (.updateTheme id patch) e).2.store ≠ e.store) :
    (perform (.updateTheme id patch) e).2.changes = e.changes ++ [.invalidated id] := by
  rw [perform, run_discard] at done ⊢
  obtain ⟨_, -, hrun⟩ :=
    (run_updateTheme id patch e).resolve_left fun hrefused => done hrefused.store_eq
  rw [hrun]
  rfl

/-- Deleting a theme announces it, if it is done. -/
theorem changes_deleteTheme (done : (perform (.deleteTheme id) e).2.store ≠ e.store) :
    (perform (.deleteTheme id) e).2.changes = e.changes ++ [.invalidated id] := by
  rw [perform] at done ⊢
  obtain ⟨-, hrun⟩ :=
    (run_deleteTheme id e).resolve_left fun hrefused => done hrefused.store_eq
  rw [hrun]
  rfl

/-- **Nothing is announced of a new default theme.** -/
theorem changes_setDefaultTheme (id : String) (e : ThemeEngine MemoryStore) :
    (perform (.setDefaultTheme id) e).2.changes = e.changes := by
  rw [perform, run_discard]
  rcases run_setDefaultTheme id e with ⟨_, hrun⟩ | ⟨_, -, hrun⟩
  · rw [hrun]
  · rw [hrun]
    rfl

/-- **Nothing is announced of a new theme.** -/
theorem changes_createTheme (data : NewTheme) (e : ThemeEngine MemoryStore) :
    (perform (.createTheme data) e).2.changes = e.changes := by
  rw [perform, run_discard]
  rcases run_createTheme data e with ⟨_, hrun⟩ | ⟨_, _, -, -, -, hrun⟩ <;> rw [hrun]

/-- **Nothing is announced of a new variation.** -/
theorem changes_createVariation (h : e.store.Integrity) (parentId : String) (data : NewVariation)
    (now : Instant) : (perform (.createVariation parentId data now) e).2.changes = e.changes := by
  rw [perform, run_discard]
  rcases run_createVariation h parentId data now with ⟨_, hrun⟩ | ⟨_, _, -, -, hrun⟩ <;> rw [hrun]

/-! ## What shows -/

theorem Coherent.shown_eq (h : e.Coherent) (online : e.store.offline = false) (page : String) :
    shown page e = e.store.shown e.fallback page := by
  rw [shown, h.pageTheme_fst online, MemoryStore.shown]

/-- A call that changes what a page shows does this by the one change of the store that it makes. -/
theorem showsOn_perform (h : e.Coherent) (online : e.store.offline = false)
    (stays : (perform call e).2.store.offline = false)
    (changed : shown page (perform call e).2 ≠ shown page e) :
    (perform call e).2.store ≠ e.store ∧ ∃ edit, Makes call edit ∧
      MemoryStore.ShowsOn e.fallback page e.store (perform call e).2.store edit := by
  have changed' : (perform call e).2.store.shown e.fallback page ≠
      e.store.shown e.fallback page := by
    rw [(h.perform call).shown_eq stays, h.shown_eq online] at changed
    rwa [fallback_perform h.integrity call] at changed
  have hne : (perform call e).2.store ≠ e.store := fun hsame => changed' (by rw [hsame])
  rcases store_perform h.integrity call with hsame | ⟨edit, makes, hchange⟩
  · exact absurd hsame hne
  · refine ⟨hne, edit, makes, MemoryStore.showsOn_change h.integrity hchange ?_ changed'⟩
    rintro draft rfl
    cases makes with
    | createTheme drafted => exact (draft_ordinary drafted).1

/-! ## What shows and is announced -/

/-- **When a change that shows is announced.** -/
theorem announced_iff (h : e.Reachable) (call : EngineCall) (page : String)
    (online : e.store.offline = false) (stays : (perform call e).2.store.offline = false)
    (changed : shown page (perform call e).2 ≠ shown page e) :
    Announced call page e ↔ ¬ Silent page e call := by
  have hc := h.coherent
  have hs := hc.integrity
  obtain ⟨done, edit, makes, shows⟩ := showsOn_perform hc online stays changed
  cases makes with
  | applyTheme target =>
    cases shows
    obtain ⟨t, hchanges⟩ := changes_applyTheme hs done
    exact iff_of_true (announced_of_changes hchanges rfl) nofun
  | resetTheme =>
    cases shows
    rcases changes_resetTheme hs online page with
      ⟨⟨failure, failed⟩, hchanges⟩ | ⟨hok, t, hchanges⟩
    · refine iff_of_false (not_announced_of_changes hchanges) (not_not.2 (.resetTheme ?_))
      by_contra hstranded
      exact done (store_resetTheme_of_error hs failed hstranded)
    · refine iff_of_true (announced_of_changes hchanges rfl) ?_
      intro hsilent
      cases hsilent with
      | resetTheme stranded =>
        obtain ⟨failure, failed⟩ :=
          (resetTheme_fails_iff hs online page).2 ⟨stranded.noDefault, stranded.noFallback⟩
        rw [failed] at hok
        cases hok
  | createTheme drafted =>
    cases shows with
    | createTheme missing found =>
      exact iff_of_false (not_announced_of_changes (changes_createTheme _ e))
        (not_not.2 (.createTheme missing found))
  | createVariation draft =>
    cases shows with
    | createVariation missing found =>
      exact iff_of_false (not_announced_of_changes (changes_createVariation hs _ _ _))
        (not_not.2 (.createVariation missing found))
  | updateTheme =>
    cases shows with
    | updateTheme had belongs =>
      rw [← hc.shown_eq online] at had
      exact iff_of_true (announced_of_changes (changes_updateTheme done) ⟨_, had, belongs⟩) nofun
  | deleteTheme =>
    cases shows with
    | deleteTheme had belongs =>
      rw [← hc.shown_eq online] at had
      exact iff_of_true (announced_of_changes (changes_deleteTheme done) ⟨_, had, belongs⟩) nofun
  | setDefaultTheme =>
    cases shows with
    | setDefaultTheme unowned =>
      exact iff_of_false (not_announced_of_changes (changes_setDefaultTheme _ e))
        (not_not.2 (.setDefaultTheme unowned))
  | setOffline => cases shows

/-- The theme that a page comes to show when its own is deleted is announced by the deleted one. -/
theorem announced_of_lightAndDark :
    ∃ s, MemoryStore.ofSnapshot MemoryStore.lightAndDark = .ok s ∧
      shown "home" (perform (.deleteTheme "dark") { store := s }).2 ≠
        shown "home" { store := s } ∧
      Announced (.deleteTheme "dark") "home" { store := s } := by
  obtain ⟨s, hs⟩ : ∃ s, MemoryStore.ofSnapshot MemoryStore.lightAndDark = .ok s := ⟨_, rfl⟩
  have changed : shown "home" (perform (.deleteTheme "dark") { store := s }).2 ≠
      shown "home" { store := s } := by
    cases hs
    decide
  have online : s.offline = false := MemoryStore.online_loaded hs
  have stays : (perform (.deleteTheme "dark") { store := s }).2.store.offline = false := by
    cases hs
    decide
  refine ⟨s, hs, changed, ?_⟩
  exact (announced_iff (.opened (.loaded hs) none) _ "home" online stays changed).2 nofun

/-- **Changes that nobody is told of.** A page without an assignment gets another default theme; a
page whose theme was deleted gets the new theme that has its id; a page loses the only theme that it
can show. -/
theorem unannounced_changes :
    (∃ s, MemoryStore.ofSnapshot MemoryStore.lightAndDark = .ok s ∧
      (shown "about" { store := s }).map ResolvedTheme.name = some "light" ∧
      (shown "about" (perform (.setDefaultTheme "dark") { store := s }).2).map
        ResolvedTheme.name = some "dark" ∧
      published (.setDefaultTheme "dark") { store := s } = []) ∧
    (∃ s e, MemoryStore.ofSnapshot revivable = .ok s ∧
      e = runCalls [.deleteTheme "theme-1"] { store := s } ∧
      (shown "home" e).map ResolvedTheme.name = some "light" ∧
      (shown "home" (perform (.createTheme newcomer) e).2).map ResolvedTheme.name = some "new" ∧
      published (.createTheme newcomer) e = []) ∧
    ∃ e, e = runCalls soleThemeAssigned { store := {} } ∧
      (shown "home" e).map ResolvedTheme.name = some "plain" ∧
      shown "home" (perform (.resetTheme "home") e).2 = none ∧
      published (.resetTheme "home") e = [] :=
  ⟨⟨_, rfl, rfl, rfl, rfl⟩, ⟨_, _, rfl, rfl, rfl, rfl, rfl⟩, _, rfl, rfl, rfl, rfl⟩

end ThemeEngine

end ThemedPages
