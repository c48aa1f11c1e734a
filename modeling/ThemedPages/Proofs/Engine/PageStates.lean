import ThemedPages.Proofs.Engine.Coherence
import ThemedPages.Proofs.Tables

/-!
# What the state of a page tells

A state is noted when a page is resolved or assigned, and tells how the page came by its theme. Later
calls may unbind the page and leave its state as it is: a refresh of another page does so when both
have one theme. The state is true all the same, since whatever could make it false drops it. An
assignment of the page replaces it. A new default theme drops the states of the pages without an
assignment. A theme that is changed or deleted drops the states of all pages that are bound to
nothing then, and what the others are bound to is still there.

**Theorem (`tells_run`).** Whatever calls were made, and whenever the store was offline, each state
tells what the store has for its page, and a page that is bound has the state and the key that the
store gives it.

The invariant is `Truthful`: the cache and the bound pages agree with the store (`Coherent`), and
every state is told by the store, also that of a page that is not bound.
-/

namespace ThemedPages.ThemeEngine

/-- What a store has for a page whose state is noted. No page is left while it is resolving. -/
inductive Tells (s : MemoryStore) (page : String) : ResolutionState → Prop
  | byDefault (unassigned : s.assignments.get? page = none) : Tells s page .byDefault
  | assigned {a : Assignment} (row : s.assignments.get? page = some a)
      (kind : a.target.isVariation = false) (found : s.Holds (.theme a.target.themeId)) :
      Tells s page .assigned
  | variation {a : Assignment} {id : String} (row : s.assignments.get? page = some a)
      (kind : a.target.isVariation = true) (names : a.target.variationId = some id)
      (found : s.Holds (.variation id)) : Tells s page .variation
  | failed : Tells s page .failed

/-- The cache agrees with the store, and every state is true. -/
structure Truthful (e : ThemeEngine MemoryStore) : Prop where
  coherent : e.Coherent
  tells : ∀ page state, e.states.get? page = some state → Tells e.store page state

variable {e e' : ThemeEngine MemoryStore} {s s' : MemoryStore} {page q : String} {key : ThemeKey}
  {t : ResolvedTheme} {state : ResolutionState}

/-! ## What a store tells -/

/-- The state that a store names for a page is true when its key leads to a theme. -/
theorem tells_of_target (leads : s.target page = .ok (key, state)) (found : s.themeAt key = .ok t) :
    Tells s page state := by
  rcases MemoryStore.target_eq_ok_iff.1 leads with ⟨a, row, hkey⟩ | ⟨row, u, -, -, rfl⟩
  · unfold AssignmentTarget.key at hkey
    by_cases kind : a.target.isVariation = true
    · rw [if_pos kind] at hkey
      cases names : a.target.variationId with
      | none =>
        rw [names] at hkey
        cases hkey
      | some id =>
        rw [names] at hkey
        cases hkey
        obtain ⟨v, -, hv, -, -⟩ := MemoryStore.themeAt_variation_eq_ok_iff.1 found
        exact .variation row kind names ⟨v, hv⟩
    · rw [if_neg kind] at hkey
      cases hkey
      obtain ⟨u, hu, -⟩ := MemoryStore.themeAt_theme_eq_ok_iff.1 found
      exact .assigned row (eq_false_of_ne_true kind) ⟨u, hu⟩
  · exact .byDefault row

/-- No record goes unless a theme is deleted. -/
theorem holds_of_change {call : StoreCall} (hc : s.Change call s')
    (keeps : ∀ id, call ≠ .deleteTheme id) (h : s.Holds key) : s'.Holds key := by
  cases hc with
  | deleteTheme => exact absurd rfl (keeps _)
  | createTheme d next named unused =>
    cases key with
    | variation id => exact h
    | theme id =>
      obtain ⟨t, ht⟩ := h
      simp only [MemoryStore.Holds, Table.get?_insert, MemoryStore.get?_demoted, ht]
      split_ifs <;> exact ⟨_, rfl⟩
  | updateTheme p found custom =>
    cases key with
    | variation id => exact h
    | theme id =>
      obtain ⟨t, ht⟩ := h
      simp only [MemoryStore.Holds, Table.get?_insert, ht]
      split_ifs <;> exact ⟨_, rfl⟩
  | setDefaultTheme found =>
    cases key with
    | variation id => exact h
    | theme id =>
      obtain ⟨t, ht⟩ := h
      simp only [MemoryStore.Holds, Table.get?_map, ht]
      exact ⟨_, rfl⟩
  | createVariation d next named found unused =>
    cases key with
    | theme id => exact h
    | variation id =>
      obtain ⟨v, hv⟩ := h
      simp only [MemoryStore.Holds, Table.get?_insert, hv]
      split_ifs <;> exact ⟨_, rfl⟩
  | nothing | assign | deleteAssignment | setOffline => cases key <;> exact h

/-- A state stays true while the page keeps its row and no theme is deleted. -/
theorem Tells.change (h : Tells s page state) {call : StoreCall} (hc : s.Change call s')
    (keeps : ∀ id, call ≠ .deleteTheme id)
    (row : s'.assignments.get? page = s.assignments.get? page) : Tells s' page state := by
  cases h with
  | byDefault unassigned => exact .byDefault (row.trans unassigned)
  | assigned old kind found => exact .assigned (row.trans old) kind (holds_of_change hc keeps found)
  | variation old kind names found =>
    exact .variation (row.trans old) kind names (holds_of_change hc keeps found)
  | failed => exact .failed

/-- The state of a bound page is true, because its theme is cached and so in the store. -/
theorem Coherent.tells_of_bound (h : e.Coherent) (bound : e.cache.pageKey? page = some key)
    (noted : e.states.get? page = some state) : Tells e.store page state := by
  obtain ⟨state', leads, hstate', hcached⟩ := h.page page key bound
  obtain ⟨t, ht⟩ := Option.isSome_iff_exists.1 hcached
  rw [hstate'] at noted
  cases noted
  exact tells_of_target leads (h.theme key t ht)

/-! ## Steps -/

theorem Truthful.served {outcome : Except Failure ResolvedTheme} (h : e.Truthful)
    (serves : Served e page outcome e') : e'.Truthful := by
  refine ⟨h.coherent.served serves, ?_⟩
  cases serves with
  | cached found => exact h.tells
  | resolved missed resolves =>
    obtain ⟨-, leads, found⟩ := resolution_eq_ok resolves
    rw [h.coherent.themeAt_eq] at found
    exact Table.forall_insert h.tells (tells_of_target leads found)
  | replaced | failed => exact Table.forall_insert h.tells .failed

theorem Truthful.quiet (h : e.Truthful) (hq : Quiet e e') : e'.Truthful := by
  refine ⟨h.coherent.quiet hq, ?_⟩
  cases hq with
  | served serves => exact (h.served serves).tells
  | announced => exact h.tells
  | dropped page => exact Table.forall_erase h.tells page
  | cleared =>
    intro q state hq
    cases hq

/-- Where the states of pages that are bound to nothing are dropped, the others are true. -/
theorem Coherent.truthful_invalidated {id : String} (hc : (invalidateFamily id e).2.Coherent) :
    (invalidateFamily id e).2.Truthful := by
  refine ⟨hc, ?_⟩
  intro q state hq
  have hkept : (e.states.filter fun page _ =>
      ((e.cache.dropFamily id).pageKey? page).isSome).get? q = some state := hq
  rw [Table.get?_filter, Option.filter_eq_some_iff] at hkept
  obtain ⟨key, bound⟩ := Option.isSome_iff_exists.1 hkept.2
  exact hc.tells_of_bound bound hq

theorem Truthful.edit {edit : StoreCall} (h : e.Truthful) (he : Edit e edit e') :
    e'.Truthful := by
  have hc := h.coherent.edit he
  have hchange := he.change
  cases he with
  | @assign page target key state t s stored =>
    refine ⟨hc, ?_⟩
    intro q state' hq
    by_cases hpage : q = page
    · have bound : (e.cache.bind page key t).pageKey? q = some key := by
        rw [ThemeCache.pageKey?_bind, if_pos hpage]
      exact hc.tells_of_bound bound hq
    · rw [Table.get?_insert, if_neg hpage] at hq
      refine (h.tells q state' hq).change hchange nofun ?_
      rw [stored.eq_of_assign]
      exact (Table.get?_insert _ _ _ _).trans (if_neg hpage)
  | @deleteAssignment page s stored =>
    refine ⟨hc, ?_⟩
    intro q state' hq
    rw [Table.get?_erase] at hq
    split_ifs at hq with hpage
    refine (h.tells q state' hq).change hchange nofun ?_
    exact MemoryStore.assignments_change stored q nofun fun heq => hpage (by cases heq; rfl)
  | createTheme stored | createVariation stored =>
    refine ⟨hc, ?_⟩
    intro q state' hq
    exact (h.tells q state' hq).change hchange nofun
      (MemoryStore.assignments_change stored q nofun nofun)
  | updateTheme stored | deleteTheme stored => exact hc.truthful_invalidated
  | setDefaultTheme stored =>
    refine ⟨hc, ?_⟩
    intro q state' hq
    have hkept : (e.states.filter fun page _ =>
        !(e.states.get? page == some .byDefault)).get? q = some state' := hq
    rw [Table.get?_filter, Option.filter_eq_some_iff] at hkept
    exact (h.tells q state' hkept.1).change hchange nofun
      (MemoryStore.assignments_change stored q nofun nofun)
  | setOffline offline =>
    refine ⟨hc, ?_⟩
    intro q state' hq
    exact (h.tells q state' hq).change hchange nofun rfl

/-! ## Runs -/

theorem Truthful.perform (h : e.Truthful) (call : EngineCall) :
    (ThemeEngine.perform call e).2.Truthful := by
  rcases made_perform h.coherent.integrity call with quiet | ⟨-, edits, quiet⟩
  · exact quiet.induction Truthful.quiet h
  · exact quiet.induction Truthful.quiet (h.edit edits)

theorem Truthful.run (h : e.Truthful) (calls : List EngineCall) : (runCalls calls e).Truthful :=
  runCalls_induction (fun call _ _ h => h.perform call) h

theorem truthful_new {s : MemoryStore} (hs : s.Integrity) (fallback : Option ResolvedTheme) :
    Truthful { store := s, fallback } := by
  refine ⟨coherent_new hs fallback, ?_⟩
  intro page state hstate
  cases hstate

/-- **States are true.** The store may have been filled before by any requests; from then on only
the engine writes to it. -/
theorem tells_run {snapshot : StoreSnapshot} {s : MemoryStore}
    (opened : MemoryStore.Opened snapshot s) (requests : List StoreCall)
    (fallback : Option ResolvedTheme) (calls : List EngineCall) (page : String) :
    let e := runCalls calls { store := MemoryStore.runCalls requests s, fallback }
    e.states.get? page ≠ some .resolving ∧
      (∀ state, e.states.get? page = some state → Tells e.store page state) ∧
      ∀ key, e.cache.pageKey? page = some key → ∃ state t,
        e.states.get? page = some state ∧ e.store.target page = .ok (key, state) ∧
          e.store.themeAt key = .ok t ∧ e.store.themeOf fallback page = .ok t := by
  intro e
  have hs := (MemoryStore.integrity_opened opened).run requests
  have h : e.Truthful := (truthful_new hs fallback).run calls
  refine ⟨?_, h.tells page, ?_⟩
  · intro resolving
    cases h.tells page .resolving resolving
  · intro key bound
    obtain ⟨state, leads, noted, hcached⟩ := h.coherent.page page key bound
    obtain ⟨t, ht⟩ := Option.isSome_iff_exists.1 hcached
    have found := h.coherent.theme key t ht
    exact ⟨state, t, noted, leads, found, themeOf_eq_ok leads found fallback⟩

/-- Two pages have the default theme, and one of them is refreshed. -/
def unboundByRefresh : List EngineCall :=
  [.pageTheme "about", .pageTheme "team", .refreshPage "team"]

/-- A page keeps its state when it is unbound by the refresh of another. -/
theorem tells_of_lightAndDark :
    ∃ s e, MemoryStore.ofSnapshot MemoryStore.lightAndDark = .ok s ∧
      e = runCalls unboundByRefresh { store := s } ∧
      e.cache.pageKey? "about" = none ∧ e.states.get? "about" = some .byDefault ∧
      Tells e.store "about" .byDefault := by
  obtain ⟨s, hs⟩ : ∃ s, MemoryStore.ofSnapshot MemoryStore.lightAndDark = .ok s := ⟨_, rfl⟩
  have noted : (runCalls unboundByRefresh { store := s }).states.get? "about" =
      some .byDefault := by
    cases hs
    decide
  refine ⟨s, _, hs, rfl, ?_, noted, ?_⟩
  · cases hs
    decide
  · exact (tells_run (.loaded hs) [] none unboundByRefresh "about").2.1 _ noted

end ThemedPages.ThemeEngine
