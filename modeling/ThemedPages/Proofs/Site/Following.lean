import ThemedPages.Proofs.Engine.Announcing
import ThemedPages.Proofs.Engine.KnownPages
import ThemedPages.Proofs.Engine.Serving
import ThemedPages.Proofs.Site.Steps

/-!
# Applied styles follow the themes

A full refresh makes the engine coherent and goes through the pages that have a theme applied. From
then on a page shows another theme only by a call for this page, and the call applies what it gives.
A call that fails applies nothing, but the page shows then what it showed before, or nothing.

**Theorem (`shows_forPage`).** An operation of the engine for a page gives what the page shows
afterwards, and other pages show what they showed.

**Theorem (`stylesFollow_refreshAll`).** From a full refresh on, every page that has a theme applied
has the one that it shows.
-/

namespace ThemedPages

/-! ## What an operation for a page changes -/

namespace ThemeEngine

variable {e e₁ e' : ThemeEngine MemoryStore} {page : String} {t : ResolvedTheme}
  {outcome : Except Failure ResolvedTheme}

/-- What an operation for a page is to leave behind: a page shows what the operation gave, or
nothing new if it failed, and other pages show what they showed. -/
structure Shows (page : String) (e : ThemeEngine MemoryStore)
    (outcome : Except Failure ResolvedTheme) (e' : ThemeEngine MemoryStore) : Prop where
  coherent : e'.Coherent
  online : e'.store.offline = false
  others : ∀ q, q ≠ page → shown q e' = shown q e
  given : ∀ t, outcome = .ok t → shown page e' = some t
  failed : ∀ failure, outcome = .error failure → ∀ t, shown page e' = some t → shown page e = some t

/-- What a page shows is in the store. -/
theorem Coherent.shown_congr (h : e.Coherent) (h' : e'.Coherent) (online : e.store.offline = false)
    (hstore : e'.store = e.store) (hfallback : e'.fallback = e.fallback) (q : String) :
    shown q e' = shown q e := by
  rw [h'.shown_eq (hstore ▸ online), h.shown_eq online, hstore, hfallback]

theorem shown_pageTheme (h : e.Coherent) (online : e.store.offline = false) (page q : String) :
    shown q (pageTheme page e).2 = shown q e := by
  have hquiet := isQuiet_pageTheme page e h.integrity
  exact h.shown_congr (h.pageTheme page) online hquiet.store_eq hquiet.fallback_eq q

theorem shows_pageTheme (h : e.Coherent) (online : e.store.offline = false) (page : String) :
    Shows page e (pageTheme page e).1 (pageTheme page e).2 where
  coherent := h.pageTheme page
  online := by rwa [(isQuiet_pageTheme page e h.integrity).store_eq]
  others q _ := shown_pageTheme h online page q
  given t ht := by
    rw [shown_pageTheme h online, shown, ht]
    rfl
  failed _ _ t ht := by rwa [shown_pageTheme h online] at ht

/-- To announce what was given shows nowhere. -/
theorem Shows.announced {served : Except Failure ResolvedTheme × ThemeEngine MemoryStore}
    (h : Shows page e served.1 served.2) :
    Shows page e (announceServed page served).1 (announceServed page served).2 := by
  obtain ⟨changes, hnext⟩ := announceServed_snd page served
  have hsame : ∀ q, shown q (served.2.withChanges changes) = shown q served.2 :=
    h.coherent.shown_congr (h.coherent.withChanges changes) h.online rfl rfl
  rw [announceServed_fst, hnext]
  refine ⟨h.coherent.withChanges changes, h.online, fun q hq => ?_, fun t ht => ?_,
    fun failure hfailure t ht => ?_⟩
  · rw [hsame, h.others q hq]
  · rw [hsame, h.given t ht]
  · rw [hsame] at ht
    exact h.failed failure hfailure t ht

/-- A page is resolved once something else was done that shows on no other page. -/
theorem shows_of_resolved (h : e₁.Coherent) (online : e₁.store.offline = false)
    (hothers : ∀ q, q ≠ page → shown q e₁ = shown q e) :
    Shows page e (announceServed page (pageTheme page e₁)).1
      (announceServed page (pageTheme page e₁)).2 := by
  have hshows := (shows_pageTheme h online page).announced
  refine ⟨hshows.coherent, hshows.online, fun q hq => (hshows.others q hq).trans (hothers q hq),
    hshows.given, fun failure hfailure t ht => ?_⟩
  -- It is what the page showed that could not be resolved.
  have hnone : shown page e₁ = none := by
    rw [announceServed_fst] at hfailure
    rw [shown, hfailure]
    rfl
  rw [hshows.failed failure hfailure t ht] at hnone
  cases hnone

theorem shows_refreshPage (h : e.Coherent) (online : e.store.offline = false) (page : String) :
    Shows page e (refreshPage page e).1 (refreshPage page e).2 := by
  have hc : (e.withoutPage page).Coherent := h.dropped page
  rw [run_refreshPage]
  exact shows_of_resolved hc online fun q _ => h.shown_congr hc online rfl rfl q

/-- What a page shows depends on no other page's assignment. -/
theorem shown_of_row {s : MemoryStore} {assignments : Table Assignment}
    (hrow : assignments.get? page = s.assignments.get? page) (fallback : Option ResolvedTheme) :
    MemoryStore.shown { s with assignments } fallback page = s.shown fallback page := by
  refine MemoryStore.shown_of_tables ?_ ?_ hrow fallback <;> rfl

theorem shows_resetTheme (h : e.Coherent) (online : e.store.offline = false) (page : String) :
    Shows page e (resetTheme page e).1 (resetTheme page e).2 := by
  have hc : (e.unassigned page).Coherent := h.unassigned (.deleteAssignment page)
  rw [run_resetTheme online]
  refine shows_of_resolved hc online fun q hq => ?_
  rw [hc.shown_eq online, h.shown_eq online]
  exact shown_of_row ((Table.get?_erase _ _ _).trans (if_neg hq)) e.fallback

theorem shown_of_cached (h : e.store.Integrity) (found : e.cache.pageTheme? page = some t) :
    shown page e = some t := by
  rw [shown, (served_pageTheme h page).outcome_of_cached found]
  rfl

theorem shows_applyTheme (h : e.Coherent) (online : e.store.offline = false) (page id : String)
    (isVariation : Bool) :
    Shows page e (applyTheme page id isVariation e).1 (applyTheme page id isVariation e).2 := by
  rcases run_applyTheme h.integrity page id isVariation with
    ⟨failure, hrun⟩ | ⟨key, t, target, state, leads, found, -, stored, hrun⟩
  · rw [hrun]
    exact ⟨h, online, fun _ _ => rfl, nofun, fun _ _ _ ht => ht⟩
  · have hassigned := h.assigned stored leads found
    have hc : (e.assigned page target key state t).Coherent := hassigned.withChanges _
    have hstore : (e.assigned page target key state t).store =
        { e.store with assignments := e.store.assignments.insert page ⟨page, target⟩ } :=
      stored.eq_of_assign
    have honline : (e.assigned page target key state t).store.offline = false := by
      rw [hstore]
      exact online
    rw [hrun]
    refine ⟨hc, honline, fun q hq => ?_, ?_, nofun⟩
    · rw [hc.shown_eq honline, h.shown_eq online, hstore]
      exact shown_of_row ((Table.get?_insert _ _ _ _).trans (if_neg hq)) e.fallback
    · rintro _ ⟨rfl⟩
      refine shown_of_cached hc.integrity ?_
      show (e.cache.bind page key t).pageTheme? page = some t
      simp [ThemeCache.pageTheme?, ThemeCache.pageKey?_bind, ThemeCache.get?_bind]

/-- **What an operation for a page shows.** -/
theorem shows_forPage (h : e.Coherent) (online : e.store.offline = false) {call : EngineCall}
    {m : EngineM MemoryStore ResolvedTheme} (forPage : Site.ForPage page call m) :
    Shows page e (m e).1 (m e).2 := by
  cases forPage with
  | pageTheme => exact shows_pageTheme h online page
  | applyTheme id isVariation => exact shows_applyTheme h online page id isVariation
  | resetTheme => exact shows_resetTheme h online page
  | refreshPage => exact shows_refreshPage h online page

end ThemeEngine

/-! ## What is applied -/

/-- What a handle says of a theme. -/
structure StyleHandle.Fits (handle : StyleHandle) (t : ResolvedTheme) : Prop where
  themeId : handle.themeId = t.id
  propertyCount : handle.propertyCount = (safeDeclarations t.properties).length

namespace Site

variable {s s' : Site MemoryStore} {page : String} {P P' : String → Prop}

/-- The pages that have a theme applied have the one that they are served, if they are served
any. -/
def StylesFollow (s : Site MemoryStore) : Prop :=
  ∀ page t, s.styles.isApplied page = true → (ThemeEngine.pageTheme page s.themes).1 = .ok t →
    ∃ handle, s.styles.applied.get? page = some handle ∧ handle.Fits t

/-- Some of the pages that have a theme applied have the one that they show. -/
structure Follows (P : String → Prop) (s : Site MemoryStore) : Prop where
  coherent : s.themes.Coherent
  online : s.themes.store.offline = false
  grounded : s.styles.Grounded
  fits : ∀ page, P page → ∀ handle t, s.styles.applied.get? page = some handle →
    ThemeEngine.shown page s.themes = some t → handle.Fits t

theorem Follows.stylesFollow (h : Follows (fun _ => True) s) : StylesFollow s := by
  intro page t happlied ht
  obtain ⟨handle, hhandle⟩ := (Table.contains_iff _ _).1 happlied
  refine ⟨handle, hhandle, h.fits page trivial handle t hhandle ?_⟩
  rw [ThemeEngine.shown, ht]
  rfl

theorem grounded_restyled {i : StyleInjector} (h : i.Grounded) (page : String)
    (outcome : Except Failure ResolvedTheme) : (restyled page i outcome).Grounded := by
  cases outcome with
  | error failure => exact h
  | ok t => exact h.inject page t

/-- **An operation for a page that applies what it gives.** The page follows its theme then, unless
it failed and showed something. -/
theorem Follows.applied (h : Follows P s) {m : EngineM MemoryStore ResolvedTheme}
    (hm : ThemeEngine.Shows page s.themes (m s.themes).1 (m s.themes).2)
    (hP : ∀ q, P' q → P q ∨ q = page ∧ ∀ failure, (m s.themes).1 = .error failure →
      ThemeEngine.shown page s.themes = none) :
    Follows P' (applying page m s).2 := by
  rw [run_applying]
  refine ⟨hm.coherent, hm.online, grounded_restyled h.grounded page _,
    fun q hq handle t hhandle hshown => ?_⟩
  dsimp only at hhandle hshown
  cases houtcome : (m s.themes).1 with
  | error failure =>
    -- Nothing is applied, so the page has to show what it showed.
    rw [houtcome] at hhandle
    have hbefore : ThemeEngine.shown q s.themes = some t := by
      by_cases hpage : q = page
      · subst hpage
        exact hm.failed failure houtcome t hshown
      · rwa [hm.others q hpage] at hshown
    rcases hP q hq with hq | ⟨rfl, hnone⟩
    · exact h.fits q hq handle t hhandle hbefore
    · rw [hnone failure houtcome] at hbefore
      cases hbefore
  | ok u =>
    rw [houtcome] at hhandle
    by_cases hpage : q = page
    · subst hpage
      rw [hm.given u houtcome] at hshown
      cases hshown
      rw [h.grounded.handle_inject hhandle]
      exact ⟨rfl, rfl⟩
    · rw [hm.others q hpage] at hshown
      rw [restyled, StyleInjector.applied_inject_of_ne _ _ hpage] at hhandle
      exact h.fits q ((hP q hq).resolve_right fun hq => hpage hq.1) handle t hhandle hshown

/-! ## A full refresh -/

/-- A page follows its theme once the theme is applied again. -/
theorem Follows.pageTheme (h : Follows P s) (page : String)
    (hP : ∀ q, P' q → P q ∨ q = page) : Follows P' (pageTheme page s).2 := by
  refine h.applied (ThemeEngine.shows_pageTheme h.coherent h.online page) fun q hq =>
    (hP q hq).imp_right fun hq => ⟨hq, fun failure hfailure => ?_⟩
  rw [ThemeEngine.shown, hfailure]
  rfl

theorem Follows.applyAgain {pages : List String} (h : Follows (· ∉ pages) s) :
    Follows (fun _ => True) (pages.forM applyAgain s).2 := by
  induction pages generalizing s with
  | nil => exact ⟨h.coherent, h.online, h.grounded, fun q _ => h.fits q List.not_mem_nil⟩
  | cons page pages ih =>
    rw [run_applyAgain_cons]
    refine ih (h.pageTheme page fun q hq => ?_)
    by_cases hpage : q = page
    · exact .inr hpage
    · exact .inl fun hmem => (List.mem_cons.1 hmem).elim hpage hq

/-- **A full refresh makes the styles follow**, whatever was cached or applied. -/
theorem follows_refreshAll (h : s.themes.store.Integrity) (grounded : s.styles.Grounded)
    (online : s.themes.store.offline = false) (order : VisitOrder) :
    Follows (fun _ => True) (refreshAll order s).2 := by
  have hstore := (ThemeEngine.isQuiet_refreshAll order s.themes h).store_eq
  rw [refreshAll_snd]
  refine Follows.applyAgain ⟨ThemeEngine.coherent_refreshAll h order, hstore ▸ online, grounded,
    fun q hq handle t hhandle _ => ?_⟩
  exact absurd ((Table.mem_keys_iff _ _).2 ((Table.contains_iff _ _).2 ⟨handle, hhandle⟩)) hq

/-- **Every step keeps it so.** -/
theorem Follows.step (h : Follows (fun _ => True) s) (hs : Step s s') :
    Follows (fun _ => True) s' := by
  cases hs with
  | registered => exact ⟨h.coherent, h.online, h.grounded, h.fits⟩
  | refreshed order =>
    have hquiet := ThemeEngine.isQuiet_refreshAll order s.themes h.coherent.integrity
    have hc := ThemeEngine.coherent_refreshAll h.coherent.integrity order
    refine ⟨hc, hquiet.store_eq ▸ h.online, h.grounded, fun q hq handle t hhandle hshown => ?_⟩
    rw [h.coherent.shown_congr hc h.online hquiet.store_eq hquiet.fallback_eq] at hshown
    exact h.fits q hq handle t hhandle hshown
  | applied forPage =>
    exact h.applied (ThemeEngine.shows_forPage h.coherent h.online forPage) fun _ _ => .inl trivial

/-- **Applied styles follow the themes** from a full refresh on. -/
theorem stylesFollow_refreshAll (h : s.ReachableWithEdits)
    (online : s.themes.store.offline = false) (order : VisitOrder) (calls : List SiteCall) :
    StylesFollow (runCalls calls (refreshAll order s).2) := by
  have hrefreshed := follows_refreshAll h.parts.themes.integrity h.parts.styles.grounded online
    order
  exact (runCalls_induction Follows.step hrefreshed calls).stylesFollow

/-- Two pages have the default theme applied, and it gets a color behind the back of the engine. -/
def recolored (s : MemoryStore) : Site MemoryStore :=
  let styled := runCalls [.pageTheme "about", .pageTheme "team"]
    { themes := { store := s }, styles := { target := .emptyDocument } }
  { styled with themes :=
      styled.themes.editedBehind "plain" { colors := some (Table.empty.insert "primary" "red") } }

theorem reachable_recolored {snapshot : StoreSnapshot} {s : MemoryStore}
    (opened : MemoryStore.Opened snapshot s) : (recolored s).ReachableWithEdits :=
  .edit (.call (.call (.new (.opened opened none) (.new _ _)) _) _) _

theorem stylesFollow_of_recolored :
    ∃ s, MemoryStore.ofSnapshot ThemeEngine.soleDefault = .ok s ∧
      ((recolored s).styles.applied.get? "team").map StyleHandle.propertyCount = some 0 ∧
      StylesFollow (runCalls [.resetTheme "about"] (refreshAll .byId (recolored s)).2) ∧
      ((runCalls [.resetTheme "about"] (refreshAll .byId (recolored s)).2).styles.applied.get?
        "team").map StyleHandle.propertyCount = some 1 := by
  obtain ⟨s, hs⟩ : ∃ s, MemoryStore.ofSnapshot ThemeEngine.soleDefault = .ok s := ⟨_, rfl⟩
  refine ⟨s, hs, ?_, stylesFollow_refreshAll (reachable_recolored (.loaded hs)) ?_ .byId _, ?_⟩
  · cases hs
    rfl
  · cases hs
    rfl
  · cases hs
    decide +kernel

end Site

end ThemedPages
