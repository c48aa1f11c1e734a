import ThemedPages.Proofs.Engine.PageRefresh

/-!
# Asking again

What is served for a page that is not cached depends on what the engine sees under each key, in its
cache or else in its store. Serving a page caches nothing but what the engine sees already, so it
changes what is counted and what is bound, but no theme.

**Theorem (`pageTheme_again`).** Whatever is cached, a page that is asked for again is served the
same.

**Theorem (`pageTheme_refreshPage`).** A page that is refreshed is served what the refresh gave.
-/

namespace ThemedPages.ThemeEngine

variable {e e' next : ThemeEngine MemoryStore} {page : String} {key : ThemeKey} {t : ResolvedTheme}
  {outcome outcome' : Except Failure ResolvedTheme}

/-! ## What an engine sees -/

/-- What an engine sees under a key can as well be cached. -/
theorem themeAt_of_put {cache : ThemeCache} {states : Table ResolutionState}
    (hcache : ∀ k, cache.get? k = if k = key then some t else e.cache.get? k)
    (ht : e.themeAt key = .ok t) : ThemeEngine.themeAt { e with cache, states } = e.themeAt := by
  funext k
  simp only [ThemeEngine.themeAt, hcache] at ht ⊢
  split_ifs with hk
  · rw [hk, ht]
  · rfl

/-- **Serving a page changes nothing that the engine sees.** -/
theorem Served.themeAt_eq (hserved : Served e page outcome next) : next.themeAt = e.themeAt := by
  cases hserved with
  | cached found => funext k; simp [ThemeEngine.themeAt]
  | resolved missed resolves =>
    refine themeAt_of_put (fun k => ?_) (resolution_eq_ok resolves).2.2
    rw [ThemeCache.get?_bind, ThemeCache.get?_countMiss]
  | replaced missed fails notFound found =>
    refine themeAt_of_put (fun k => ?_) (defaultResolution_eq_ok found)
    rw [ThemeCache.get?_put, ThemeCache.get?_countMiss]
  | failed missed fails noDefault => funext k; simp [ThemeEngine.themeAt]

theorem Served.store_eq (hserved : Served e page outcome next) : next.store = e.store := by
  cases hserved <;> rfl

theorem Served.fallback_eq (hserved : Served e page outcome next) : next.fallback = e.fallback := by
  cases hserved <;> rfl

/-! ## What it serves -/

/-- What an engine gives for a page that it does not serve from its cache. -/
def unservedTheme (e : ThemeEngine MemoryStore) (page : String) : Except Failure ResolvedTheme :=
  match e.resolution page with
  | .ok (_, t, _) => .ok t
  | .error failure =>
    match failure.isNotFound, e.defaultResolution with
    | true, .ok (_, t) => .ok t
    | _, _ => e.lastResort failure

theorem Served.outcome_of_missed (hserved : Served e page outcome next)
    (missed : e.cache.pageTheme? page = none) : outcome = e.unservedTheme page := by
  cases hserved with
  | cached found =>
    rw [missed] at found
    cases found
  | resolved _ resolves => simp only [unservedTheme, resolves]
  | replaced _ fails notFound found => simp only [unservedTheme, fails, notFound, found]
  | @failed failure _ fails noDefault =>
    cases notFound : failure.isNotFound with
    | false => simp only [unservedTheme, fails, notFound]
    | true =>
      obtain ⟨cause, hcause⟩ := noDefault notFound
      simp only [unservedTheme, fails, notFound, hcause]

theorem Served.outcome_of_cached (hserved : Served e page outcome next)
    (found : e.cache.pageTheme? page = some t) : outcome = .ok t := by
  cases hserved with
  | cached found' =>
    rw [found] at found'
    rw [Option.some.inj found']
  | resolved missed | replaced missed | failed missed =>
    rw [found] at missed
    cases missed

theorem unservedTheme_congr (hthemeAt : e'.themeAt = e.themeAt) (hstore : e'.store = e.store)
    (hfallback : e'.fallback = e.fallback) (page : String) :
    e'.unservedTheme page = e.unservedTheme page := by
  simp only [unservedTheme, resolution, defaultResolution, answered, lastResort, hthemeAt, hstore,
    hfallback]

/-- What was announced shows in nothing that is served. -/
theorem pageTheme_withChanges (h : e.store.Integrity) (changes : List ThemeChange)
    (page : String) : (pageTheme page (e.withChanges changes)).1 = (pageTheme page e).1 := by
  have hserved := served_pageTheme h page
  have hserved' := served_pageTheme (e := e.withChanges changes) h page
  cases hc : e.cache.pageTheme? page with
  | some t => rw [hserved.outcome_of_cached hc, hserved'.outcome_of_cached hc]
  | none =>
    rw [hserved.outcome_of_missed hc, hserved'.outcome_of_missed hc]
    rfl

/-! ## The same again -/

/-- What is cached for a page once it was served is what it was served. -/
theorem Served.outcome_of_next_cached (hserved : Served e page outcome next)
    (found : next.cache.pageTheme? page = some t) : outcome = .ok t := by
  cases hserved with
  | cached found' =>
    rw [ThemeCache.pageTheme?_countHit, found'] at found
    rw [Option.some.inj found]
  | resolved missed resolves =>
    simp [ThemeCache.pageTheme?, ThemeCache.pageKey?_bind, ThemeCache.get?_bind] at found
    rw [found]
  | replaced missed fails notFound hdefault =>
    obtain ⟨k, hkey, hk⟩ := ThemeCache.pageKey?_of_pageTheme? _ _ _ found
    rw [ThemeCache.pageKey?_put, ThemeCache.pageKey?_countMiss] at hkey
    rw [ThemeCache.get?_put, ThemeCache.get?_countMiss] at hk
    -- Nothing was cached under the key that the page is bound to, but it may be the default's.
    split_ifs at hk with heq
    · rw [Option.some.inj hk]
    · simp [ThemeCache.pageTheme?, hkey, hk] at missed
  | failed missed fails noDefault =>
    rw [ThemeCache.pageTheme?_countMiss, missed] at found
    cases found

/-- **A page that is asked for again is served the same.** -/
theorem pageTheme_again (h : e.store.Integrity) (page : String) :
    (pageTheme page (pageTheme page e).2).1 = (pageTheme page e).1 := by
  have hfirst := served_pageTheme h page
  have hagain := served_pageTheme (hfirst.store_eq ▸ h) page
  generalize (pageTheme page (pageTheme page e).2).1 = outcome' at hagain ⊢
  generalize (pageTheme page (pageTheme page e).2).2 = next' at hagain
  generalize (pageTheme page e).1 = outcome at hfirst ⊢
  generalize (pageTheme page e).2 = next at hfirst hagain
  cases hnext : next.cache.pageTheme? page with
  | some t => rw [hfirst.outcome_of_next_cached hnext, hagain.outcome_of_cached hnext]
  | none =>
    have missed : e.cache.pageTheme? page = none := by
      cases hfirst with
      | cached found =>
        rw [ThemeCache.pageTheme?_countHit, found] at hnext
        cases hnext
      | resolved missed | replaced missed | failed missed => exact missed
    rw [hfirst.outcome_of_missed missed, hagain.outcome_of_missed hnext]
    exact unservedTheme_congr hfirst.themeAt_eq hfirst.store_eq hfirst.fallback_eq page

/-- **A page that was refreshed is served what the refresh gave.** -/
theorem pageTheme_refreshPage (h : e.store.Integrity) (page : String) :
    (pageTheme page (refreshPage page e).2).1 = (refreshPage page e).1 := by
  have hs : (e.withoutPage page).store.Integrity := h
  have hnext : (pageTheme page (e.withoutPage page)).2.store.Integrity :=
    (served_pageTheme hs page).store_eq ▸ hs
  rw [run_refreshPage, announceServed_fst]
  obtain ⟨changes, hannounced⟩ := announceServed_snd page (pageTheme page (e.withoutPage page))
  rw [hannounced, pageTheme_withChanges hnext, pageTheme_again hs]

end ThemedPages.ThemeEngine
