import ThemedPages.Proofs.Running
import ThemedPages.Proofs.Store.Loading
import ThemedPages.Theme.Engine

/-!
# Resolving the theme of a page

`MemoryStore.themeOf` says which theme a page has by the store alone: the theme or the variation
that it is assigned to, or the default theme, or else the fallback. The engine resolves a page in
the same way, but takes a theme from its cache where it has one.

**Theorem (`run_resolve`).** Resolving a page leaves the engine as it is. It gives the key that the
store names, with the theme that the engine sees under it.

**Theorem (`served_pageTheme`).** Asking for the theme of a page has one of four outcomes
(`Served`): it is served from the cache; or it is resolved and the page is bound to it; or the
default theme is served in its place, and the page stays unbound; or nothing but the fallback is
left.
-/

namespace ThemedPages

/-! ## The theme of a page by the store -/

/-- The key that an assignment of a page leads to. -/
def AssignmentTarget.key (target : AssignmentTarget) (page : String) :
    Except Failure (ThemeKey × ResolutionState) :=
  if target.isVariation then
    match target.variationId with
    | none => .error (.notFound .variation ("<unset for " ++ page ++ ">"))
    | some id => .ok (.variation id, .variation)
  else .ok (.theme target.themeId, .assigned)

namespace MemoryStore

/-- A theme, or that it is not there. -/
def findTheme (s : MemoryStore) (id : String) : Except Failure Theme :=
  match s.themes.get? id with
  | some t => .ok t
  | none => .error (.notFound .theme id)

/-- A variation, or that it is not there. -/
def findVariation (s : MemoryStore) (id : String) : Except Failure Variation :=
  match s.variations.get? id with
  | some v => .ok v
  | none => .error (.notFound .variation id)

/-- The default theme, or that there is none. -/
def findDefault (s : MemoryStore) : Except Failure Theme :=
  match s.defaultTheme? with
  | some t => .ok t
  | none => .error (.notFound .defaultTheme "is_default")

/-- What is under a key: a theme, or a variation in the category of its theme. -/
def themeAt (s : MemoryStore) : ThemeKey → Except Failure ResolvedTheme
  | .theme id => do
    let t ← s.findTheme id
    return t.resolved
  | .variation id => do
    let v ← s.findVariation id
    let parent ← s.findTheme v.parentId
    return v.resolved parent.category

/-- The key that a page is to use, and how it comes by it. -/
def target (s : MemoryStore) (page : String) : Except Failure (ThemeKey × ResolutionState) :=
  match s.assignments.get? page with
  | some a => a.target.key page
  | none => do
    let t ← s.findDefault
    return (.theme t.id, .byDefault)

/-- What stands in for a theme that was not found: the default theme, or else the fallback. -/
def standIn (s : MemoryStore) (fallback : Option ResolvedTheme) (failure : Failure) :
    Except Failure ResolvedTheme :=
  match s.defaultTheme?, fallback with
  | some t, _ => .ok t.resolved
  | none, some t => .ok t
  | none, none => .error failure

/-- The theme that a page is to use. -/
def chosenTheme (s : MemoryStore) (page : String) : Except Failure ResolvedTheme := do
  let (key, _) ← s.target page
  s.themeAt key

/-- The theme of a page. -/
def themeOf (s : MemoryStore) (fallback : Option ResolvedTheme) (page : String) :
    Except Failure ResolvedTheme :=
  match s.chosenTheme page with
  | .ok t => .ok t
  | .error failure => s.standIn fallback failure

variable {s : MemoryStore} {id page : String} {key : ThemeKey} {t : ResolvedTheme}

theorem findTheme_eq_ok_iff {u : Theme} :
    s.findTheme id = .ok u ↔ s.themes.get? id = some u := by
  cases ht : s.themes.get? id <;> simp [findTheme, ht]

theorem findVariation_eq_ok_iff {v : Variation} :
    s.findVariation id = .ok v ↔ s.variations.get? id = some v := by
  cases hv : s.variations.get? id <;> simp [findVariation, hv]

theorem Integrity.get?_defaultTheme (h : s.Integrity) {u : Theme}
    (hu : s.defaultTheme? = some u) : s.themes.get? u.id = some u := by
  obtain ⟨id, found⟩ := (s.themes.mem_values_iff u).1 (List.mem_of_find?_eq_some hu)
  rwa [h.theme_id id u found]

/-- The default theme is the one theme that is marked so. -/
theorem Integrity.findDefault_eq_ok_iff (h : s.Integrity) {u : Theme} :
    s.findDefault = .ok u ↔ s.themes.get? u.id = some u ∧ u.isDefault = true := by
  constructor
  · intro hd
    unfold findDefault at hd
    split at hd
    · rename_i u' hu
      cases hd
      exact ⟨h.get?_defaultTheme hu, List.find?_some hu⟩
    · cases hd
  · rintro ⟨hu, hmark⟩
    unfold findDefault
    cases hd : s.defaultTheme? with
    | none =>
      have hmem : u ∈ s.themes.values := (s.themes.mem_values_iff u).2 ⟨u.id, hu⟩
      exact absurd hmark (List.find?_eq_none.1 hd u hmem)
    | some u' =>
      have hu' := h.get?_defaultTheme hd
      have hid := h.one_default u.id u'.id u u' hu hmark hu' (List.find?_some hd)
      rw [hid, hu'] at hu
      cases hu
      rfl

theorem themeAt_theme_eq_ok_iff :
    s.themeAt (.theme id) = .ok t ↔ ∃ u, s.themes.get? id = some u ∧ u.resolved = t := by
  cases hu : s.themes.get? id <;> simp [themeAt, findTheme, hu, pure, Except.pure]

theorem themeAt_variation_eq_ok_iff :
    s.themeAt (.variation id) = .ok t ↔ ∃ v parent, s.variations.get? id = some v ∧
      s.themes.get? v.parentId = some parent ∧ v.resolved parent.category = t := by
  cases hv : s.variations.get? id with
  | none => simp [themeAt, findVariation, hv]
  | some v =>
    cases hu : s.themes.get? v.parentId <;>
      simp [themeAt, findVariation, findTheme, hv, hu, pure, Except.pure]

theorem target_eq_ok_iff {state : ResolutionState} :
    s.target page = .ok (key, state) ↔
      (∃ a, s.assignments.get? page = some a ∧ a.target.key page = .ok (key, state)) ∨
        (s.assignments.get? page = none ∧
          ∃ u, s.findDefault = .ok u ∧ key = .theme u.id ∧ state = .byDefault) := by
  cases ha : s.assignments.get? page with
  | some a => simp [target, ha]
  | none =>
    cases hd : s.findDefault with
    | error failure => simp [target, ha, hd]
    | ok u => simp [target, ha, hd, pure, Except.pure, eq_comm]

theorem themeAt_of_tables {s' : MemoryStore} (hthemes : s'.themes = s.themes)
    (hvariations : s'.variations = s.variations) : s'.themeAt = s.themeAt := by
  funext key
  cases key <;> simp only [themeAt, findTheme, findVariation, hthemes, hvariations]

/-- The theme of a page depends on the records and on its own row. -/
theorem themeOf_of_tables {s' : MemoryStore} (hthemes : s'.themes = s.themes)
    (hvariations : s'.variations = s.variations)
    (hrow : s'.assignments.get? page = s.assignments.get? page)
    (fallback : Option ResolvedTheme) : s'.themeOf fallback page = s.themeOf fallback page := by
  simp only [themeOf, chosenTheme, standIn, target, findDefault, defaultTheme?,
    themeAt_of_tables hthemes hvariations, hthemes, hrow]

theorem isNotFound_of_themeAt {failure : Failure} (h : s.themeAt key = .error failure) :
    failure.isNotFound = true := by
  cases key with
  | theme id =>
    cases hu : s.themes.get? id <;> simp [themeAt, findTheme, hu, pure, Except.pure] at h
    rw [← h]
    rfl
  | variation id =>
    cases hv : s.variations.get? id with
    | none =>
      simp only [themeAt, findVariation, hv, Except.bind_of_error, Except.error.injEq] at h
      rw [← h]
      rfl
    | some v =>
      cases hu : s.themes.get? v.parentId <;>
        simp [themeAt, findVariation, findTheme, hv, hu, pure, Except.pure] at h
      rw [← h]
      rfl

theorem isNotFound_of_target {failure : Failure} (h : s.target page = .error failure) :
    failure.isNotFound = true := by
  unfold target at h
  split at h
  · unfold AssignmentTarget.key at h
    split at h
    · split at h
      · cases h
        rfl
      · cases h
    · cases h
  · cases hd : s.defaultTheme? <;> simp [findDefault, hd, pure, Except.pure] at h
    rw [← h]
    rfl

/-- In a store, a theme can only be missing. -/
theorem isNotFound_of_chosenTheme {failure : Failure} (h : s.chosenTheme page = .error failure) :
    failure.isNotFound = true := by
  unfold chosenTheme at h
  cases htarget : s.target page with
  | error failure' =>
    rw [htarget] at h
    cases h
    exact isNotFound_of_target htarget
  | ok r =>
    rw [htarget] at h
    exact isNotFound_of_themeAt h

end MemoryStore

/-! ## Running the engine -/

namespace ThemeEngine

section
variable {σ : Type}

@[simp] theorem run_serve (page : String) (e : ThemeEngine σ) :
    serve page e =
      (.ok (e.cache.serve page).1, { e with cache := (e.cache.serve page).2 }) := rfl

@[simp] theorem run_ask (request : StateM σ (Answer α)) (e : ThemeEngine σ) :
    ask request e = ((request e.store).1, { e with store := (request e.store).2 }) := rfl

@[simp] theorem run_cached? (key : ThemeKey) (e : ThemeEngine σ) :
    (cached? key : EngineM σ _) e = (.ok (e.cache.get? key), e) := rfl

@[simp] theorem run_modifyCache (f : ThemeCache → ThemeCache) (e : ThemeEngine σ) :
    modifyCache f e = (.ok (), { e with cache := f e.cache }) := rfl

@[simp] theorem run_setState (page : String) (state : ResolutionState) (e : ThemeEngine σ) :
    setState page state e = (.ok (), { e with states := e.states.insert page state }) := rfl

@[simp] theorem run_forget (page : String) (e : ThemeEngine σ) :
    forget page e = (.ok (), { e with states := e.states.erase page }) := rfl

@[simp] theorem run_announce (change : ThemeChange) (e : ThemeEngine σ) :
    announce change e = (.ok (), { e with changes := e.changes ++ [change] }) := rfl

end

/-! ## What the engine sees -/

section
variable (e : ThemeEngine MemoryStore)

/-- An answer of the store, which fails when the store is offline. -/
def answered (request : String) (x : Except Failure α) : Except Failure α :=
  if e.store.offline then .error (MemoryStore.offlineFailure request) else x

/-- What the engine sees under a key: the cached theme, or else that of the store. -/
def themeAt (key : ThemeKey) : Except Failure ResolvedTheme :=
  match e.cache.get? key with
  | some t => .ok t
  | none => e.store.themeAt key

/-- What a page is resolved to. -/
def resolution (page : String) : Except Failure (ThemeKey × ResolvedTheme × ResolutionState) :=
  e.answered "get_page_assignment" do
    let (key, state) ← e.store.target page
    let t ← e.themeAt key
    return (key, t, state)

/-- What the default theme is resolved to. -/
def defaultResolution : Except Failure (ThemeKey × ResolvedTheme) :=
  e.answered "get_default_theme" do
    let t ← e.store.findDefault
    let resolved ← e.themeAt (.theme t.id)
    return (.theme t.id, resolved)

theorem run_loadTheme (id : String) :
    loadTheme id e = (e.answered "get_theme" (e.store.findTheme id), e) := by
  rw [loadTheme, run_bind]
  cases hoff : e.store.offline <;> cases ht : e.store.themes.get? id <;>
    simp [ThemeStore.getTheme, MemoryStore.read, answered, MemoryStore.findTheme, hoff, ht]

theorem run_loadVariation (id : String) :
    loadVariation id e = (e.answered "get_variation" (e.store.findVariation id), e) := by
  rw [loadVariation, run_bind]
  cases hoff : e.store.offline <;> cases ht : e.store.variations.get? id <;>
    simp [ThemeStore.getVariation, MemoryStore.read, answered, MemoryStore.findVariation, hoff, ht]

variable {e}

theorem run_loadTheme_ok (online : e.store.offline = false) {id : String} {t : Theme}
    (found : e.store.themes.get? id = some t) : loadTheme id e = (.ok t, e) := by
  rw [run_loadTheme, answered, online, MemoryStore.findTheme_eq_ok_iff.2 found]
  rfl

theorem run_loadVariation_ok (online : e.store.offline = false) {id : String} {v : Variation}
    (found : e.store.variations.get? id = some v) : loadVariation id e = (.ok v, e) := by
  rw [run_loadVariation, answered, online, MemoryStore.findVariation_eq_ok_iff.2 found]
  rfl

/-! ## Resolving -/

theorem run_loadDefault (h : e.store.Integrity) :
    loadDefault e = (e.defaultResolution, e) := by
  rw [loadDefault, run_bind]
  cases hoff : e.store.offline with
  | true => simp [ThemeStore.getDefaultTheme, MemoryStore.read, defaultResolution, answered, hoff]
  | false =>
    cases ht : e.store.defaultTheme? with
    | none =>
      simp [ThemeStore.getDefaultTheme, MemoryStore.read, defaultResolution, answered,
        MemoryStore.findDefault, hoff, ht]
    | some t =>
      have hfound := h.get?_defaultTheme ht
      cases hc : e.cache.get? (.theme t.id) <;>
        simp [ThemeStore.getDefaultTheme, MemoryStore.read, defaultResolution, answered, themeAt,
          MemoryStore.findDefault, MemoryStore.themeAt, MemoryStore.findTheme, run_map, Except.map,
          hoff, ht, hc, hfound]

theorem run_followAssignment (online : e.store.offline = false) (page : String) (a : Assignment)
    (ha : e.store.assignments.get? page = some a) :
    followAssignment page a.target e = (e.resolution page, e) := by
  obtain ⟨pageId, themeId, variationId, isVariation⟩ := a
  cases isVariation with
  | false =>
    have htarget : e.store.target page = .ok (.theme themeId, .assigned) := by
      simp [MemoryStore.target, AssignmentTarget.key, ha]
    rw [resolution, htarget]
    cases hc : e.cache.get? (.theme themeId) <;>
      cases ht : e.store.findTheme themeId <;>
      simp [followAssignment, run_bind, run_map, run_loadTheme, answered, themeAt,
        MemoryStore.themeAt, Except.map, online, hc, ht]
  | true =>
    cases variationId with
    | none =>
      simp [resolution, followAssignment, answered, MemoryStore.target, AssignmentTarget.key, ha,
        online]
    | some id =>
      have htarget : e.store.target page = .ok (.variation id, .variation) := by
        simp [MemoryStore.target, AssignmentTarget.key, ha]
      rw [resolution, htarget]
      cases hc : e.cache.get? (.variation id) with
      | some t =>
        simp [followAssignment, run_bind, answered, themeAt, online, hc]
      | none =>
        cases hv : e.store.findVariation id with
        | error failure =>
          simp [followAssignment, run_bind, run_loadVariation, answered, themeAt,
            MemoryStore.themeAt, online, hc, hv]
        | ok v =>
          cases ht : e.store.findTheme v.parentId <;>
            simp [followAssignment, run_bind, run_map, run_loadVariation, run_loadTheme, answered,
              themeAt, MemoryStore.themeAt, Except.map, online, hc, hv, ht]

/-- **Resolving a page.** -/
theorem run_resolve (h : e.store.Integrity) (page : String) :
    resolve page e = (e.resolution page, e) := by
  rw [resolve, run_bind]
  cases hoff : e.store.offline with
  | true => simp [ThemeStore.getAssignment, MemoryStore.read, resolution, answered, hoff]
  | false =>
    have hask : ask (ThemeStore.getAssignment page) e =
        (.ok (e.store.assignments.get? page), e) := by
      simp [ThemeStore.getAssignment, MemoryStore.read, hoff]
    rw [hask]
    cases ha : e.store.assignments.get? page with
    | none =>
      rw [resolution, MemoryStore.target, ha]
      cases hd : e.store.findDefault with
      | error failure =>
        simp [run_bind, run_loadDefault h, defaultResolution, answered, hoff, hd]
      | ok t =>
        cases ht : e.themeAt (.theme t.id) <;>
          simp [run_bind, run_loadDefault h, defaultResolution, answered, hoff, hd, ht]
    | some a => exact run_followAssignment hoff page a ha

/-! ## Serving -/

/-- What is left when neither a page nor the default theme can be resolved. -/
def lastResort (e : ThemeEngine MemoryStore) (failure : Failure) : Except Failure ResolvedTheme :=
  match e.fallback with
  | some t => .ok t
  | none => .error failure

theorem run_fallBack_default (h : e.store.Integrity) {failure : Failure}
    (notFound : failure.isNotFound = true) {key : ThemeKey} {t : ResolvedTheme}
    (found : e.defaultResolution = .ok (key, t)) :
    fallBack failure e = (.ok t, { e with cache := e.cache.put key t }) := by
  simp [fallBack, run_bind, run_map, Except.map, run_observing, run_loadDefault h, notFound, found]

theorem run_fallBack_lastResort (h : e.store.Integrity) {failure : Failure}
    (noDefault : failure.isNotFound = true → ∃ cause, e.defaultResolution = .error cause) :
    fallBack failure e = (e.lastResort failure, e) := by
  cases notFound : failure.isNotFound with
  | false =>
    cases hf : e.fallback <;> simp [fallBack, lastResort, run_bind, notFound, hf]
  | true =>
    obtain ⟨cause, hcause⟩ := noDefault notFound
    cases hf : e.fallback <;>
      simp [fallBack, lastResort, run_bind, run_observing, run_loadDefault h, notFound, hcause, hf]

/-- What asking for the theme of a page gives, and what the engine is then. -/
inductive Served (e : ThemeEngine MemoryStore) (page : String) :
    Except Failure ResolvedTheme → ThemeEngine MemoryStore → Prop
  | cached {t : ResolvedTheme} (found : e.cache.pageTheme? page = some t) :
      Served e page (.ok t) { e with cache := e.cache.countHit }
  | resolved {key : ThemeKey} {t : ResolvedTheme} {state : ResolutionState}
      (missed : e.cache.pageTheme? page = none)
      (resolves : e.resolution page = .ok (key, t, state)) :
      Served e page (.ok t)
        { e with
          cache := e.cache.countMiss.bind page key t
          states := e.states.insert page state }
  | replaced {failure : Failure} {key : ThemeKey} {t : ResolvedTheme}
      (missed : e.cache.pageTheme? page = none)
      (fails : e.resolution page = .error failure) (notFound : failure.isNotFound = true)
      (found : e.defaultResolution = .ok (key, t)) :
      Served e page (.ok t)
        { e with
          cache := e.cache.countMiss.put key t
          states := e.states.insert page .failed }
  | failed {failure : Failure} (missed : e.cache.pageTheme? page = none)
      (fails : e.resolution page = .error failure)
      (noDefault : failure.isNotFound = true → ∃ cause, e.defaultResolution = .error cause) :
      Served e page (e.lastResort failure)
        { e with cache := e.cache.countMiss, states := e.states.insert page .failed }

/-- **Serving a page.** -/
theorem served_pageTheme (h : e.store.Integrity) (page : String) :
    Served e page (pageTheme page e).1 (pageTheme page e).2 := by
  cases hc : e.cache.pageTheme? page with
  | some t =>
    have hrun : pageTheme page e = (.ok t, { e with cache := e.cache.countHit }) := by
      simp [pageTheme, run_bind, ThemeCache.serve, hc]
    rw [hrun]
    exact .cached hc
  | none =>
    -- Serving starts by counting the miss and marking the page, which shows in no resolution.
    let e₁ : ThemeEngine MemoryStore :=
      { e with cache := e.cache.countMiss, states := e.states.insert page .resolving }
    have hresolve : resolve page e₁ = (e.resolution page, e₁) := by
      rw [run_resolve (e := e₁) h]
      simp [resolution, answered, themeAt, e₁]
    cases hr : e.resolution page with
    | ok r =>
      obtain ⟨key, t, state⟩ := r
      rw [hr] at hresolve
      have hrun : pageTheme page e = (.ok t,
          { e with
            cache := e.cache.countMiss.bind page key t
            states := e.states.insert page state }) := by
        simp [pageTheme, run_bind, run_map, Except.map, ThemeCache.serve, hc, run_observing,
          hresolve, e₁, Table.insert_insert]
      rw [hrun]
      exact .resolved hc hr
    | error failure =>
      let e₂ : ThemeEngine MemoryStore :=
        { e with cache := e.cache.countMiss, states := e.states.insert page .failed }
      rw [hr] at hresolve
      have hrun : pageTheme page e = fallBack failure e₂ := by
        simp [pageTheme, run_bind, ThemeCache.serve, hc, run_observing, hresolve, e₁, e₂,
          Table.insert_insert]
      have hdefault : e₂.defaultResolution = e.defaultResolution := by
        simp [defaultResolution, answered, themeAt, e₂]
      rw [hrun]
      by_cases hd : failure.isNotFound = true ∧ ∃ r, e.defaultResolution = .ok r
      · obtain ⟨notFound, ⟨key, t⟩, hd⟩ := hd
        rw [run_fallBack_default (e := e₂) h notFound (hdefault.trans hd)]
        exact .replaced hc hr notFound hd
      · have noDefault : failure.isNotFound = true →
            ∃ cause, e.defaultResolution = .error cause := fun notFound => by
          cases hd' : e.defaultResolution with
          | ok r => exact absurd ⟨notFound, r, hd'⟩ hd
          | error cause => exact ⟨cause, rfl⟩
        rw [run_fallBack_lastResort (e := e₂) h (by rwa [hdefault])]
        exact .failed hc hr noDefault

end

end ThemeEngine

end ThemedPages
