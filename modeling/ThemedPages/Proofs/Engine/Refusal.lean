import ThemedPages.Proofs.Engine.Steps

/-!
# Calls that fail

An operation looks up all that it needs before it asks the store for its change, so it fails with
the store as it was. Only the removal of an assignment goes on after its change: it resolves the
page again, and the assignment is gone when this fails.

**Theorem (`failsHalfway_iff`).** A call fails after it has changed the contents of the store iff it
removes the assignment of a page, and there is neither a default theme nor a fallback for it.
-/

namespace ThemedPages.ThemeEngine

variable {e : ThemeEngine MemoryStore} {page : String} {failure : Failure}

/-- A call fails, and the contents of the store are not what they were. -/
def FailsHalfway (call : EngineCall) (e : ThemeEngine MemoryStore) : Prop :=
  (∃ failure, (perform call e).1 = .error failure) ∧
    (perform call e).2.store.snapshot ≠ e.store.snapshot

/-- A page is assigned to something, and there is nothing else that it could show. -/
structure Stranded (page : String) (e : ThemeEngine MemoryStore) : Prop where
  online : e.store.offline = false
  assigned : ∃ a, e.store.assignments.get? page = some a
  noDefault : e.store.defaultTheme? = none
  noFallback : e.fallback = none

/-! ## Operations that fail before their change -/

/-- An operation that is refused or done leaves the store as it was if it fails. -/
theorem store_discard_of_error {x : EngineM MemoryStore α}
    (h : Refused x e ∨ ∃ a e', x e = (.ok a, e'))
    (failed : (Functor.discard x e).1 = .error failure) :
    (Functor.discard x e).2.store = e.store := by
  rw [run_discard] at failed ⊢
  rcases h with hrefused | ⟨a, e', hrun⟩
  · exact hrefused.store_eq
  · rw [hrun] at failed
    cases failed

/-- A call that fails leaves the store as it was, unless it removes an assignment. -/
theorem store_of_error (h : e.store.Integrity) {call : EngineCall}
    (failed : (perform call e).1 = .error failure) (hcall : ∀ page, call ≠ .resetTheme page) :
    (perform call e).2.store = e.store := by
  cases call with
  | resetTheme page => exact absurd rfl (hcall page)
  | applyTheme page id isVariation =>
    refine store_discard_of_error ((run_applyTheme h page id isVariation).imp_right ?_) failed
    exact fun ⟨_, _, _, _, _, _, _, _, hrun⟩ => ⟨_, _, hrun⟩
  | createTheme data =>
    refine store_discard_of_error ((run_createTheme data e).imp_right ?_) failed
    exact fun ⟨_, _, _, _, _, hrun⟩ => ⟨_, _, hrun⟩
  | createVariation parentId data now =>
    refine store_discard_of_error ((run_createVariation h parentId data now).imp_right ?_) failed
    exact fun ⟨_, _, _, _, hrun⟩ => ⟨_, _, hrun⟩
  | updateTheme id patch =>
    refine store_discard_of_error ((run_updateTheme id patch e).imp_right ?_) failed
    exact fun ⟨_, _, hrun⟩ => ⟨_, _, hrun⟩
  | setDefaultTheme id =>
    refine store_discard_of_error ((run_setDefaultTheme id e).imp_right ?_) failed
    exact fun ⟨_, _, hrun⟩ => ⟨_, _, hrun⟩
  | deleteTheme id =>
    rcases run_deleteTheme id e with hrefused | ⟨-, hrun⟩
    · exact hrefused.store_eq
    · rw [perform, hrun] at failed
      cases failed
  | setOffline offline => cases failed
  | pageTheme | refreshPage | refreshAll | refreshRound | listThemes | listVariations =>
    -- These ask the store for no change at all.
    rcases store_perform h _ with hsame | ⟨edit, makes, -⟩
    · exact hsame
    · cases makes

/-! ## Removing an assignment -/

theorem store_resetTheme (h : e.store.Integrity) (online : e.store.offline = false)
    (page : String) :
    (perform (.resetTheme page) e).2.store =
      { e.store with assignments := e.store.assignments.erase page } := by
  have hs : (e.unassigned page).store.Integrity := h.change (.deleteAssignment page)
  rw [perform, run_discard, run_resetTheme online]
  obtain ⟨changes, hnext⟩ := announceServed_snd page (pageTheme page (e.unassigned page))
  rw [hnext]
  exact (isQuiet_pageTheme page _ hs).store_eq

/-- What can fail is resolving the page without its assignment. -/
theorem resetTheme_fails_iff (h : e.store.Integrity) (online : e.store.offline = false)
    (page : String) :
    (∃ failure, (perform (.resetTheme page) e).1 = .error failure) ↔
      e.store.defaultTheme? = none ∧ e.fallback = none := by
  have hs : (e.unassigned page).store.Integrity := h.change (.deleteAssignment page)
  have unassigned : (e.unassigned page).store.assignments.get? page = none := by
    show (e.store.assignments.erase page).get? page = none
    rw [Table.get?_erase, if_pos rfl]
  have unbound : (e.unassigned page).cache.pageKey? page = none := by
    show (e.cache.unbind page).pageKey? page = none
    rw [ThemeCache.pageKey?_unbind, if_pos rfl]
  have hpage := run_pageTheme_unassigned hs online unassigned unbound
  have hmap : ∀ failure, (perform (.resetTheme page) e).1 = .error failure ↔
      (pageTheme page (e.unassigned page)).1 = .error failure := by
    intro failure
    rw [perform, run_discard, run_resetTheme online, announceServed_fst]
    cases (pageTheme page (e.unassigned page)).1 <;> simp [Except.map]
  simp only [hmap, hpage]
  constructor
  · rintro ⟨_, noDefault, noFallback, -⟩
    exact ⟨noDefault, noFallback⟩
  · rintro ⟨noDefault, noFallback⟩
    exact ⟨_, noDefault, noFallback, rfl⟩

theorem erase_of_get?_eq_none {rows : Table α} {k : String} (hk : rows.get? k = none) :
    rows.erase k = rows := by
  apply Table.ext_get?
  intro q
  rw [Table.get?_erase]
  split_ifs with hq
  · rw [hq, hk]
  · rfl

/-- Without its assignment, the contents of a store are not what they were. -/
theorem snapshot_erase_ne {s : MemoryStore} (h : s.Integrity) {a : Assignment}
    (assigned : s.assignments.get? page = some a) :
    ({ s with assignments := s.assignments.erase page } : MemoryStore).snapshot ≠ s.snapshot := by
  intro heq
  have hrows : (s.assignments.erase page).values = s.assignments.values :=
    congrArg StoreSnapshot.assignments heq
  have hmem : a ∈ s.assignments.values := (Table.mem_values_iff _ a).2 ⟨page, assigned⟩
  rw [← hrows] at hmem
  obtain ⟨q, hq⟩ := (Table.mem_values_iff _ a).1 hmem
  rw [Table.get?_erase] at hq
  split_ifs at hq with hne
  -- The row says which page it is for, so it is under no other page.
  exact hne ((h.assignment_page q a hq).symm.trans (h.assignment_page page a assigned))

/-! ## What fails halfway -/

theorem store_resetTheme_of_error (h : e.store.Integrity)
    (failed : (perform (.resetTheme page) e).1 = .error failure) (hpage : ¬ Stranded page e) :
    (perform (.resetTheme page) e).2.store = e.store := by
  cases online : e.store.offline with
  | true =>
    rw [perform, run_discard]
    exact (refused_resetTheme online page).store_eq
  | false =>
    rw [store_resetTheme h online page]
    cases assigned : e.store.assignments.get? page with
    | none => rw [erase_of_get?_eq_none assigned]
    | some a =>
      obtain ⟨noDefault, noFallback⟩ := (resetTheme_fails_iff h online page).1 ⟨failure, failed⟩
      exact absurd ⟨online, ⟨a, assigned⟩, noDefault, noFallback⟩ hpage

theorem Stranded.failsHalfway (hpage : Stranded page e) (h : e.store.Integrity) :
    FailsHalfway (.resetTheme page) e := by
  obtain ⟨a, assigned⟩ := hpage.assigned
  refine ⟨(resetTheme_fails_iff h hpage.online page).2 ⟨hpage.noDefault, hpage.noFallback⟩, ?_⟩
  rw [store_resetTheme h hpage.online page]
  exact snapshot_erase_ne h assigned

/-- **Calls are done or refused**, but for one that removes the assignment of a stranded page. -/
theorem failsHalfway_iff (h : e.ReachableWithEdits) (call : EngineCall) :
    (FailsHalfway call e ↔ ∃ page, call = .resetTheme page ∧ Stranded page e) ∧
      ∀ failure, (perform call e).1 = .error failure → ¬ FailsHalfway call e →
        (perform call e).2.store = e.store := by
  have hsame : ∀ failure, (perform call e).1 = .error failure →
      (¬ ∃ page, call = .resetTheme page ∧ Stranded page e) →
        (perform call e).2.store = e.store := by
    intro failure failed hnone
    by_cases hcall : ∃ page, call = .resetTheme page
    · obtain ⟨page, rfl⟩ := hcall
      exact store_resetTheme_of_error h.integrity failed fun hpage => hnone ⟨page, rfl, hpage⟩
    · exact store_of_error h.integrity failed fun page heq => hcall ⟨page, heq⟩
  have hhalfway : (∃ page, call = .resetTheme page ∧ Stranded page e) → FailsHalfway call e := by
    rintro ⟨page, rfl, hpage⟩
    exact hpage.failsHalfway h.integrity
  refine ⟨⟨fun ⟨⟨failure, failed⟩, hne⟩ => ?_, hhalfway⟩, fun failure failed hdone => ?_⟩
  · by_contra hnone
    exact hne (congrArg MemoryStore.snapshot (hsame failure failed hnone))
  · exact hsame failure failed fun hpage => hdone (hhalfway hpage)

/-- A page is assigned to the only theme, which is not the default. -/
def soleThemeAssigned : List EngineCall :=
  [.createTheme { name := some "plain", displayName := some "Plain", category := some .light,
                  colors := some .empty },
   .applyTheme "home" "theme-1" false]

theorem failsHalfway_of_soleTheme :
    FailsHalfway (.resetTheme "home") (runCalls soleThemeAssigned { store := {} }) := by
  have h : ReachableWithEdits (runCalls soleThemeAssigned { store := {} }) :=
    .call (.call (.opened .new none) _) _
  exact (failsHalfway_iff h _).1.2 ⟨"home", rfl, rfl, ⟨_, rfl⟩, by decide, rfl⟩

/-- **A failed call that took an assignment away.** -/
theorem assignment_lost_by_failed_reset :
    (perform (.resetTheme "home") (runCalls soleThemeAssigned { store := {} })).1 =
        .error (.notFound .defaultTheme "is_default") ∧
      (runCalls soleThemeAssigned { store := {} }).store.snapshot.assignments =
        [⟨"home", "theme-1", none, false⟩] ∧
      (perform (.resetTheme "home")
        (runCalls soleThemeAssigned { store := {} })).2.store.snapshot.assignments = [] :=
  ⟨rfl, rfl, rfl⟩

end ThemedPages.ThemeEngine
