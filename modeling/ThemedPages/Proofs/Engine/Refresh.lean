import ThemedPages.Proofs.Engine.Coherence

/-!
# A full refresh

When others write to the store, an engine goes on serving what it has cached. A full refresh drops
all of it before it asks the store for anything, and what it caches from then on comes from the
store as it is.

**Theorem (`pageTheme_refreshed`).** Whatever was cached, and whether or not the refresh succeeds,
the engine serves from then on what an engine serves that has nothing cached.
-/

namespace ThemedPages.ThemeEngine

variable {e : ThemeEngine MemoryStore}

/-- What an engine is after a full refresh, when it had anything cached before. -/
def refreshed (order : VisitOrder) (cache : ThemeCache) (states : Table ResolutionState)
    (e : ThemeEngine MemoryStore) : ThemeEngine MemoryStore :=
  (refreshAll order { e with cache, states }).2

/-- **A refresh needs no trust in the cache.** Dropping it makes an engine coherent, and to resolve
pages again keeps it so, as far as that comes. -/
theorem coherent_refreshAll (h : e.store.Integrity) (order : VisitOrder) :
    (refreshAll order e).2.Coherent := by
  rw [run_refreshAll]
  have hquiet := isQuiet_refreshKnown (knownEntries order e) e.cleared h
  exact hquiet.induction Coherent.quiet (coherent_cleared h)

theorem fallback_refreshed (h : e.store.Integrity) (order : VisitOrder) (cache : ThemeCache)
    (states : Table ResolutionState) : (e.refreshed order cache states).fallback = e.fallback :=
  (isQuiet_refreshAll order { e with cache, states } h).fallback_eq

/-- A coherent engine serves what an engine serves that has nothing cached. -/
theorem Coherent.pageTheme_eq_new (h : e.Coherent) (online : e.store.offline = false)
    (page : String) :
    (pageTheme page e).1 = (pageTheme page { store := e.store, fallback := e.fallback }).1 := by
  have hnew : Coherent { store := e.store, fallback := e.fallback } :=
    coherent_new h.integrity e.fallback
  rw [h.pageTheme_fst online, hnew.pageTheme_fst online]

/-- **A full refresh heals any staleness**, and no later call brings it back. -/
theorem pageTheme_refreshed (h : e.ReachableWithEdits) (order : VisitOrder) (cache : ThemeCache)
    (states : Table ResolutionState) (calls : List EngineCall) (page : String)
    (online : (runCalls calls (e.refreshed order cache states)).store.offline = false) :
    (pageTheme page (runCalls calls (e.refreshed order cache states))).1 =
      (pageTheme page
        { store := (runCalls calls (e.refreshed order cache states)).store
          fallback := e.fallback }).1 := by
  have hfresh : (e.refreshed order cache states).Coherent :=
    coherent_refreshAll (e := { e with cache, states }) h.integrity order
  have hfallback : (runCalls calls (e.refreshed order cache states)).fallback = e.fallback :=
    (fallback_runCalls hfresh.integrity calls).trans (fallback_refreshed h.integrity order _ _)
  rw [(hfresh.run calls).pageTheme_eq_new online page, hfallback]

/-- A theme of which the store knows nothing, on a page that is assigned to another. -/
def staleCache : ThemeCache where
  themes := Table.empty.insert "ghost"
    { id := "ghost", name := "ghost", displayName := "Ghost", category := .custom,
      properties := .empty, origin := .theme }
  pages := Table.empty.insert "home" (.theme "ghost")

/-- A theme is deleted behind the back of the engine, and the refresh fails because the store is
away. -/
theorem pageTheme_of_staleCache :
    ∃ s e, MemoryStore.ofSnapshot MemoryStore.lightAndDark = .ok s ∧
      e = ({ store := MemoryStore.runCalls [.deleteTheme "dark", .setOffline true] s } :
        ThemeEngine MemoryStore) ∧
      ((pageTheme "home" { e with cache := staleCache }).1.map ResolvedTheme.name) =
        .ok "ghost" ∧
      (refreshAll .byId { e with cache := staleCache }).1 =
        .error (MemoryStore.offlineFailure "list_themes") ∧
      (pageTheme "home" (runCalls [.setOffline false] (e.refreshed .byId staleCache .empty))).1 =
        (pageTheme "home"
          { store := (runCalls [.setOffline false] (e.refreshed .byId staleCache .empty)).store
            fallback := none }).1 := by
  obtain ⟨s, hs⟩ : ∃ s, MemoryStore.ofSnapshot MemoryStore.lightAndDark = .ok s := ⟨_, rfl⟩
  have h : ReachableWithEdits
      { store := MemoryStore.runCalls [.deleteTheme "dark", .setOffline true] s } :=
    .edit (.edit (.opened (.loaded hs) none) (.deleteTheme "dark")) (.setOffline true)
  refine ⟨s, _, hs, rfl, ?_, ?_, pageTheme_refreshed h .byId staleCache .empty _ "home" rfl⟩
  · cases hs
    rfl
  · cases hs
    rfl

end ThemedPages.ThemeEngine
