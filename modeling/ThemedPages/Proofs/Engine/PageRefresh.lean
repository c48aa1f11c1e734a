import ThemedPages.Proofs.Engine.Refresh

/-!
# A page refresh

A refresh of a page drops the theme that the page is bound to, and resolves the page again. By then
the store may name another key for it, and the page is bound to nothing when the default theme
stands in for its own. What is cached under such a key is not dropped, and it is served.

**Theorem (`pageTheme_unserved`).** Whatever is cached, a page that is not served from the cache gets
the theme that is cached where it is looked for, or else the one that the store gives it.

**Theorem (`refreshPage_current_iff`).** A refresh of a page gives what the store gives it, unless
another theme stays cached where it is looked for, under a key that the page was not bound to.
-/

namespace ThemedPages.ThemeEngine

variable {e : ThemeEngine MemoryStore} {page : String} {key : ThemeKey} {t : ResolvedTheme}

/-! ## Where a theme is looked for -/

/-- The keys that an engine looks under for a page that its cache does not serve: the one that the
store names, and that of the default theme if nothing is found. -/
inductive LooksUnder (page : String) (e : ThemeEngine MemoryStore) : ThemeKey → Prop
  | own {key : ThemeKey} {state : ResolutionState}
      (leads : e.store.target page = .ok (key, state)) : LooksUnder page e key
  | standIn {failure : Failure} {u : Theme} (fails : e.resolution page = .error failure)
      (default : e.store.defaultTheme? = some u) : LooksUnder page e (.theme u.id)

theorem LooksUnder.eq_of_resolves (hlooks : LooksUnder page e key) {k : ThemeKey}
    {state : ResolutionState} (resolves : e.resolution page = .ok (k, t, state)) : key = k := by
  obtain ⟨-, htarget, -⟩ := resolution_eq_ok resolves
  cases hlooks with
  | own leads =>
    rw [leads] at htarget
    cases htarget
    rfl
  | standIn fails default =>
    rw [resolves] at fails
    cases fails

/-- A page that cannot be resolved has nothing cached under its own key. -/
theorem LooksUnder.of_fails (hlooks : LooksUnder page e key) (online : e.store.offline = false)
    {failure : Failure} (fails : e.resolution page = .error failure) :
    e.cache.get? key = none ∨ ∃ u, e.store.defaultTheme? = some u ∧ key = .theme u.id := by
  cases hlooks with
  | standIn _ default => exact .inr ⟨_, default, rfl⟩
  | @own key state leads =>
    refine .inl ?_
    cases ht : e.themeAt key with
    | error cause => exact (themeAt_eq_error ht).1
    | ok t => simp [resolution, answered, online, leads, ht, pure, Except.pure] at fails

/-- A page whose own theme is not cached is resolved to what the store has. -/
theorem resolution_of_uncached (online : e.store.offline = false) {state : ResolutionState}
    (leads : e.store.target page = .ok (key, state)) (uncached : e.cache.get? key = none)
    (found : e.store.themeAt key = .ok t) : e.resolution page = .ok (key, t, state) := by
  simp [resolution, answered, online, leads, ThemeEngine.themeAt, uncached, found, pure, Except.pure]

/-! ## What is served -/

theorem themeAt_eq_ok (ht : e.themeAt key = .ok t) :
    e.cache.get? key = some t ∨ e.cache.get? key = none ∧ e.store.themeAt key = .ok t := by
  unfold ThemeEngine.themeAt at ht
  split at ht
  · cases ht
    rename_i hc
    exact .inl hc
  · rename_i hc
    exact .inr ⟨hc, ht⟩

theorem defaultResolution_eq_some (hr : e.defaultResolution = .ok (key, t)) :
    ∃ u, e.store.defaultTheme? = some u ∧ key = .theme u.id := by
  unfold defaultResolution answered MemoryStore.findDefault at hr
  cases hd : e.store.defaultTheme? with
  | none =>
    rw [hd] at hr
    split at hr <;> cases hr
  | some u =>
    refine ⟨u, rfl, ?_⟩
    rw [hd] at hr
    split at hr
    · cases hr
    · obtain ⟨u', hdefault, hr⟩ := Except.exists_of_bind hr
      cases hdefault
      obtain ⟨t', -, hr⟩ := Except.exists_of_bind hr
      cases hr
      rfl

/-- With a default theme, something can be resolved to it. -/
theorem exists_defaultResolution (h : e.store.Integrity) (online : e.store.offline = false)
    {u : Theme} (hd : e.store.defaultTheme? = some u) : ∃ r, e.defaultResolution = .ok r := by
  have found := h.get?_defaultTheme hd
  cases hc : e.cache.get? (.theme u.id) <;>
    simp [defaultResolution, answered, online, MemoryStore.findDefault, hd, ThemeEngine.themeAt, hc,
      MemoryStore.themeAt, MemoryStore.findTheme, found, pure, Except.pure]

/-- **What is served whatever is cached.** Either some theme is cached where it is looked for, and
this one is served; or nothing is, and the page gets what the store gives it. -/
theorem pageTheme_unserved (h : e.store.Integrity) (online : e.store.offline = false)
    (missed : e.cache.pageTheme? page = none) :
    (∃ t, (pageTheme page e).1 = .ok t ∧
        (∃ key, LooksUnder page e key ∧ e.cache.get? key = some t) ∧
        ∀ key u, LooksUnder page e key → e.cache.get? key = some u → u = t) ∨
      ((∀ key, LooksUnder page e key → e.cache.get? key = none) ∧
        (pageTheme page e).1 = e.store.themeOf e.fallback page) := by
  have hserved := served_pageTheme h page
  generalize (pageTheme page e).1 = outcome at hserved ⊢
  generalize (pageTheme page e).2 = next at hserved
  cases hserved with
  | cached found =>
    rw [missed] at found
    cases found
  | @resolved key t state missed resolves =>
    obtain ⟨-, htarget, ht⟩ := resolution_eq_ok resolves
    rcases themeAt_eq_ok ht with hc | ⟨hc, ht⟩
    · refine .inl ⟨t, rfl, ⟨key, .own htarget, hc⟩, fun k u hlooks hu => ?_⟩
      rw [hlooks.eq_of_resolves resolves, hc] at hu
      cases hu
      rfl
    · refine .inr ⟨fun k hlooks => ?_, (themeOf_eq_ok htarget ht e.fallback).symm⟩
      rw [hlooks.eq_of_resolves resolves, hc]
  | @replaced failure key t missed fails notFound found =>
    have hchosen := resolution_eq_error online fails
    obtain ⟨d, hd, rfl⟩ := defaultResolution_eq_some found
    rcases themeAt_eq_ok (defaultResolution_eq_ok found) with hc | ⟨hc, ht⟩
    · refine .inl ⟨t, rfl, ⟨_, .standIn fails hd, hc⟩, fun k u hlooks hu => ?_⟩
      rcases hlooks.of_fails online fails with hnone | ⟨d', hd', rfl⟩
      · rw [hnone] at hu
        cases hu
      · rw [hd] at hd'
        cases hd'
        rw [hc] at hu
        cases hu
        rfl
    · refine .inr ⟨fun k hlooks => ?_, ?_⟩
      · rcases hlooks.of_fails online fails with hnone | ⟨d', hd', rfl⟩
        · exact hnone
        · rw [hd] at hd'
          cases hd'
          exact hc
      · obtain ⟨d', hd', rfl⟩ := MemoryStore.themeAt_theme_eq_ok_iff.1 ht
        rw [h.get?_defaultTheme hd] at hd'
        cases hd'
        simp only [MemoryStore.themeOf, hchosen, MemoryStore.standIn, hd]
  | @failed failure missed fails noDefault =>
    have hchosen := resolution_eq_error online fails
    obtain ⟨cause, hcause⟩ := noDefault (MemoryStore.isNotFound_of_chosenTheme hchosen)
    have hd : e.store.defaultTheme? = none := by
      by_contra hsome
      obtain ⟨u, hu⟩ := Option.ne_none_iff_exists'.1 hsome
      obtain ⟨r, hr⟩ := exists_defaultResolution h online hu
      rw [hr] at hcause
      cases hcause
    refine .inr ⟨fun k hlooks => ?_, ?_⟩
    · rcases hlooks.of_fails online fails with hnone | ⟨d, hd', -⟩
      · exact hnone
      · rw [hd] at hd'
        cases hd'
    · simp only [MemoryStore.themeOf, hchosen, MemoryStore.standIn, hd, lastResort]
      cases e.fallback <;> rfl

/-! ## The refresh -/

/-- An engine that has forgotten a page, and dropped what the page is bound to. -/
def withoutPage (e : ThemeEngine MemoryStore) (page : String) : ThemeEngine MemoryStore :=
  { e with cache := dropPage e.cache page, states := e.states.erase page }

theorem run_refreshPage (page : String) (e : ThemeEngine MemoryStore) :
    refreshPage page e = announceServed page (pageTheme page (e.withoutPage page)) :=
  run_pageTheme_announce page (e.withoutPage page)

theorem get?_dropPage (c : ThemeCache) (page : String) (key : ThemeKey) :
    (dropPage c page).get? key = if c.pageKey? page = some key then none else c.get? key := by
  unfold dropPage
  cases hkey : c.pageKey? page with
  | none => simp
  | some k =>
    simp only [ThemeCache.get?_unbind, ThemeCache.get?_drop, Option.some.injEq, eq_comm (a := k)]

theorem pageKey?_dropPage (c : ThemeCache) (page : String) :
    (dropPage c page).pageKey? page = none := by
  rw [dropPage, ThemeCache.pageKey?_unbind, if_pos rfl]

/-- A refresh of the page comes upon a cached theme that it has not dropped, and that is not the one
that the store gives the page. -/
def ServesStale (page : String) (e : ThemeEngine MemoryStore) : Prop :=
  ∃ key t, LooksUnder page (e.withoutPage page) key ∧ e.cache.pageKey? page ≠ some key ∧
    e.cache.get? key = some t ∧ e.store.themeOf e.fallback page ≠ .ok t

theorem refreshPage_eq_themeOf_iff (h : e.store.Integrity) (online : e.store.offline = false)
    (page : String) :
    (refreshPage page e).1 = e.store.themeOf e.fallback page ↔ ¬ ServesStale page e := by
  have hcache : ∀ key t, (e.withoutPage page).cache.get? key = some t ↔
      e.cache.pageKey? page ≠ some key ∧ e.cache.get? key = some t := by
    intro key t
    rw [show (e.withoutPage page).cache = dropPage e.cache page from rfl, get?_dropPage]
    split_ifs with hkey <;> simp [hkey]
  have missed : (e.withoutPage page).cache.pageTheme? page = none := by
    rw [ThemeCache.pageTheme?,
      show (e.withoutPage page).cache.pageKey? page = none from pageKey?_dropPage e.cache page]
    rfl
  rw [run_refreshPage, announceServed_fst]
  rcases pageTheme_unserved (e := e.withoutPage page) h online missed with
    ⟨t, hserved, ⟨key, hlooks, hkey⟩, honly⟩ | ⟨hnone, hserved⟩
  · rw [hserved]
    constructor
    · rintro hcurrent ⟨key', u, hlooks', hbound, hu, hne⟩
      rw [honly key' u hlooks' ((hcache key' u).2 ⟨hbound, hu⟩)] at hne
      exact hne hcurrent.symm
    · intro hstale
      by_contra hne
      obtain ⟨hbound, hcached⟩ := (hcache key t).1 hkey
      exact hstale ⟨key, t, hlooks, hbound, hcached, fun heq => hne heq.symm⟩
  · refine iff_of_true hserved ?_
    rintro ⟨key, t, hlooks, hbound, hcached, -⟩
    have hnone' := hnone key hlooks
    rw [(hcache key t).2 ⟨hbound, hcached⟩] at hnone'
    cases hnone'

/-- A page that is bound to what the store names for it gets just that. -/
theorem not_servesStale_of_bound (online : e.store.offline = false) {state : ResolutionState}
    (bound : e.cache.pageKey? page = some key) (leads : e.store.target page = .ok (key, state))
    (found : e.store.themeAt key = .ok t) : ¬ ServesStale page e := by
  rintro ⟨k, u, hlooks, hne, -, -⟩
  have hdropped : (e.withoutPage page).cache.get? key = none := by
    show (dropPage e.cache page).get? key = none
    rw [get?_dropPage, if_pos bound]
  have resolves : (e.withoutPage page).resolution page = .ok (key, t, state) :=
    resolution_of_uncached (e := e.withoutPage page) online leads hdropped found
  rw [hlooks.eq_of_resolves resolves] at hne
  exact hne bound

/-- **When a page refresh gives what the store holds**: what an engine gives that has nothing
cached. -/
theorem refreshPage_current_iff (h : e.ReachableWithEdits) (online : e.store.offline = false)
    (page : String) :
    (refreshPage page e).1 = (pageTheme page { store := e.store, fallback := e.fallback }).1 ↔
      ¬ ServesStale page e := by
  have hnew : Coherent { store := e.store, fallback := e.fallback } :=
    coherent_new h.integrity e.fallback
  rw [hnew.served_eq_themeOf online (served_pageTheme hnew.integrity page)]
  exact refreshPage_eq_themeOf_iff h.integrity online page

/-- A change of a theme that its engine is not told of. -/
def editedBehind (id : String) (patch : ThemePatch) (e : ThemeEngine MemoryStore) :
    ThemeEngine MemoryStore :=
  { e with store := (MemoryStore.perform (.updateTheme id patch) e.store).2 }

/-- The category of a variation comes from its theme, which is changed after the page was served. -/
theorem refreshPage_of_lightAndDark :
    ∃ s e, MemoryStore.ofSnapshot MemoryStore.lightAndDark = .ok s ∧
      e = editedBehind "dark" { category := some .colorful }
        (runCalls [.pageTheme "home"] { store := s }) ∧
      (pageTheme "home" e).1.map ResolvedTheme.category = .ok .dark ∧
      (refreshPage "home" e).1.map ResolvedTheme.category = .ok .colorful ∧
      (refreshPage "home" e).1 =
        (pageTheme "home" { store := e.store, fallback := e.fallback }).1 := by
  obtain ⟨s, hs⟩ : ∃ s, MemoryStore.ofSnapshot MemoryStore.lightAndDark = .ok s := ⟨_, rfl⟩
  have h : ReachableWithEdits (editedBehind "dark" { category := some .colorful }
      (runCalls [.pageTheme "home"] { store := s })) :=
    .edit (.call (.opened (.loaded hs) none) (.pageTheme "home")) _
  refine ⟨s, _, hs, rfl, ?_, ?_, (refreshPage_current_iff h ?_ "home").2 ?_⟩
  · cases hs
    rfl
  · cases hs
    rfl
  · cases hs
    rfl
  · cases hs
    exact not_servesStale_of_bound rfl rfl rfl rfl

/-- One theme, and a page that is assigned to a theme that is gone. -/
def soleDefault : StoreSnapshot where
  themes :=
    [{ id := "plain", name := "plain", displayName := "Plain", category := .light,
       colors := .empty, isDefault := true }]
  assignments := [⟨"home", "gone", none, false⟩]

/-- **A page refresh that serves a stale theme.** The default theme stood in for that of the page;
or it was cached for another page. -/
theorem stale_refreshPage :
    (∃ s e, MemoryStore.ofSnapshot soleDefault = .ok s ∧
      e = editedBehind "plain" { displayName := some "New" }
        (runCalls [.pageTheme "home"] { store := s }) ∧
      (refreshPage "home" e).1.map ResolvedTheme.displayName = .ok "Plain" ∧
      (pageTheme "home" { store := e.store, fallback := e.fallback }).1.map
        ResolvedTheme.displayName = .ok "New") ∧
    ∃ s e, MemoryStore.ofSnapshot soleDefault = .ok s ∧
      e = editedBehind "plain" { displayName := some "New" }
        (runCalls [.pageTheme "about"] { store := s }) ∧
      (refreshPage "team" e).1.map ResolvedTheme.displayName = .ok "Plain" ∧
      (pageTheme "team" { store := e.store, fallback := e.fallback }).1.map
        ResolvedTheme.displayName = .ok "New" :=
  ⟨⟨_, _, rfl, rfl, rfl, rfl⟩, _, _, rfl, rfl, rfl, rfl⟩

end ThemedPages.ThemeEngine
