import ThemedPages.Proofs.Engine.Steps
import ThemedPages.Proofs.Style.Injection
import ThemedPages.Site.Basic

/-!
# What calls do to a site

A `SiteCall` is an operation of a site with its arguments. A `Step` is what a site does at once: it
changes its registries; or its engine drops everything and resolves its pages again; or its engine
does something for a page, and what comes of that is applied to the page.

**Theorem (`steps_perform`).** Every call takes steps only. What holds of a site after calls is
therefore shown over the cases of `Step`.

`ReachableWithEdits` are the sites that calls lead to, when the engine is used apart from the site,
others write to the store, and the registries are changed in any way.
-/

namespace ThemedPages

/-- A call of a site, with what it reads from outside. -/
inductive SiteCall
  | discover (files : FileTree) (now : Instant) (directory : String)
  | revalidate (files : FileTree) (now : Instant)
  | compose (files : FileTree) (now : Instant) (page : String) (filter : ComponentFilter)
  | pageTheme (page : String)
  | applyTheme (page id : String) (isVariation : Bool)
  | resetTheme (page : String)
  | refreshPage (page : String)
  | refreshAll (order : VisitOrder)
  | refreshRound (pages : List String) (order : VisitOrder)

namespace Site

/-- Do what a call asks for. -/
def perform : SiteCall → SiteM MemoryStore Unit
  | .discover files now directory => discard (discover files now directory)
  | .revalidate files now => discard (revalidate files now)
  | .compose files now page filter => discard (compose files now page filter)
  | .pageTheme page => discard (pageTheme page)
  | .applyTheme page id isVariation => discard (applyTheme page id isVariation)
  | .resetTheme page => discard (resetTheme page)
  | .refreshPage page => refreshPage page
  | .refreshAll order => refreshAll order
  | .refreshRound pages order => refreshRound pages order

/-- The site after a sequence of calls. -/
def runCalls (calls : List SiteCall) (s : Site MemoryStore) : Site MemoryStore :=
  calls.foldl (fun s call => (perform call s).2) s

/-- What an engine does for a page, so that its theme is to be applied. -/
inductive ForPage (page : String) : EngineCall → EngineM MemoryStore ResolvedTheme → Prop
  | pageTheme : ForPage page (.pageTheme page) (ThemeEngine.pageTheme page)
  | applyTheme (id : String) (isVariation : Bool) :
      ForPage page (.applyTheme page id isVariation) (ThemeEngine.applyTheme page id isVariation)
  | resetTheme : ForPage page (.resetTheme page) (ThemeEngine.resetTheme page)
  | refreshPage : ForPage page (.refreshPage page) (ThemeEngine.refreshPage page)

/-- What a site does at once. -/
inductive Step (s : Site MemoryStore) : Site MemoryStore → Prop
  | registered (routes : RouteRegistry) (components : ComponentRegistry) :
      Step s { s with routes, components }
  | refreshed (order : VisitOrder) :
      Step s { s with themes := (ThemeEngine.refreshAll order s.themes).2 }
  | applied {page : String} {call : EngineCall} {m : EngineM MemoryStore ResolvedTheme}
      (forPage : ForPage page call m) : Step s (applying page m s).2

/-- Steps, one after the other. -/
abbrev Steps : Site MemoryStore → Site MemoryStore → Prop := Relation.ReflTransGen Step

variable {s s' : Site MemoryStore} {page : String}

theorem Steps.induction {P : Site MemoryStore → Prop}
    (step : ∀ {s s' : Site MemoryStore}, P s → Step s s' → P s') (h : P s) (hs : Steps s s') :
    P s' := by
  induction hs with
  | refl => exact h
  | tail _ hstep ih => exact step ih hstep

/-! ## Running a site -/

@[simp] theorem run_onThemes {σ : Type} (m : EngineM σ α) (s : Site σ) :
    onThemes m s = ((m s.themes).1, { s with themes := (m s.themes).2 }) := rfl

@[simp] theorem run_onRoutes {σ : Type} (f : RouteRegistry → α × RouteRegistry) (s : Site σ) :
    onRoutes f s = (.ok (f s.routes).1, { s with routes := (f s.routes).2 }) := rfl

/-- What is applied once it is known what theme a page has. -/
def restyled (page : String) (i : StyleInjector) : Except Failure ResolvedTheme → StyleInjector
  | .ok t => (i.inject page t).2
  | .error _ => i

/-- **Applying what the engine gives.** A failure leaves the page as it looks. -/
theorem run_applying (page : String) (m : EngineM MemoryStore ResolvedTheme)
    (s : Site MemoryStore) :
    applying page m s = ((m s.themes).1,
      { s with themes := (m s.themes).2, styles := restyled page s.styles (m s.themes).1 }) := by
  rw [applying, run_bind, run_onThemes]
  cases (m s.themes).1 <;> rfl

theorem run_applyAgain (page : String) (s : Site MemoryStore) :
    applyAgain page s = (.ok ⟨⟩, (pageTheme page s).2) := by
  rw [applyAgain, run_discard, run_observing]
  rfl

theorem run_applyAgain_cons (page : String) (pages : List String) (s : Site MemoryStore) :
    (page :: pages).forM applyAgain s = pages.forM applyAgain (pageTheme page s).2 :=
  bind_ok (run_applyAgain page s)

theorem applyAgain_ok (pages : List String) (s : Site MemoryStore) :
    (pages.forM applyAgain s).1 = .ok ⟨⟩ := by
  induction pages generalizing s with
  | nil => rfl
  | cons page pages ih =>
    rw [run_applyAgain_cons]
    exact ih _

/-- **A full refresh.** The pages that have a theme applied get it again, one after the other. -/
theorem refreshAll_snd (order : VisitOrder) (s : Site MemoryStore) :
    (refreshAll order s).2 = (s.styles.applied.keys.forM applyAgain
      { s with themes := (ThemeEngine.refreshAll order s.themes).2 }).2 := by
  simp only [refreshAll, run_bind, run_observing, run_onThemes, run_get]
  have hloop := applyAgain_ok s.styles.applied.keys
    { s with themes := (ThemeEngine.refreshAll order s.themes).2 }
  cases hrun : s.styles.applied.keys.forM applyAgain
      { s with themes := (ThemeEngine.refreshAll order s.themes).2 } with
  | mk outcome next =>
    rw [hrun] at hloop
    cases hloop
    dsimp only
    rw [run_discard, run_lift]

/-! ## Composing a page -/

section Compose

variable {σ : Type} [ThemeStore σ] {s : Site σ}
  (files : FileTree) (now : Instant) (filter : ComponentFilter)

/-- What is applied once a page is composed. -/
def composedStyles (page : String) (i : StyleInjector) :
    Except Failure Composition → StyleInjector
  | .ok (.page p) => match p.theme with
    | some t => (i.inject page t).2
    | none => i
  | _ => i

/-- **Composing with the theme applied.** It gives what composing alone gives. -/
theorem run_compose (page : String) (s : Site σ) :
    compose files now page filter s = ((composePage files now page filter s).1,
      { (composePage files now page filter s).2 with
        styles := composedStyles page (composePage files now page filter s).2.styles
          (composePage files now page filter s).1 }) := by
  rw [compose, run_bind]
  cases composePage files now page filter s with
  | mk outcome next =>
    cases outcome with
    | error failure => rfl
    | ok composition =>
      cases composition with
      | notFound id reason => rfl
      | page p =>
        dsimp only [composedStyles]
        cases p.theme <;> rfl

theorem composePage_unknown (unknown : s.routes.get? page = none) :
    composePage files now page filter s = (.ok (.notFound page .unknownRoute), s) := by
  rw [composePage, run_bind, run_get]
  dsimp only
  rw [unknown]
  rfl

variable {route : Route} (found : s.routes.get? page = some route)
include found

theorem composePage_invalid (invalid : route.isValid = false) :
    composePage files now page filter s = (.ok (.notFound page .invalidRoute), s) := by
  rw [composePage, run_bind, run_get]
  dsimp only
  rw [found]
  dsimp only
  rw [invalid]
  rfl

theorem composePage_unloadable (valid : route.isValid = true) {failure : Failure}
    (unloadable : Descriptor.load files route.descriptorPath = .error failure) :
    composePage files now page filter s =
      (.error failure, { s with routes := s.routes.recordCheck page false now }) := by
  rw [composePage, run_bind, run_get]
  dsimp only
  rw [found]
  dsimp only
  rw [valid, Bool.not_true, if_neg Bool.false_ne_true, unloadable]
  rfl

theorem composePage_loaded (valid : route.isValid = true) {d : Descriptor}
    (loaded : Descriptor.load files route.descriptorPath = .ok d) :
    composePage files now page filter s =
      (.ok (.page ((d.compose s.components page
          (ThemeEngine.pageTheme page s.themes).1.toOption).withFilter filter)),
        { s with themes := (ThemeEngine.pageTheme page s.themes).2 }) := by
  simp [composePage, found, valid, loaded, run_bind, run_map, run_observing, Except.map]

end Compose

/-- A page is not composed, and at most its route is changed; or it is composed with its theme. -/
theorem run_composePage (files : FileTree) (now : Instant) (page : String)
    (filter : ComponentFilter) (s : Site MemoryStore) :
    (∃ outcome routes, composePage files now page filter s = (outcome, { s with routes }) ∧
      ∀ p, outcome ≠ .ok (.page p)) ∨
    ∃ p, p.theme = (ThemeEngine.pageTheme page s.themes).1.toOption ∧
      composePage files now page filter s =
        (.ok (.page p), { s with themes := (ThemeEngine.pageTheme page s.themes).2 }) := by
  cases hroute : s.routes.get? page with
  | none => exact .inl ⟨_, s.routes, composePage_unknown files now filter hroute, by simp⟩
  | some route =>
    cases hvalid : route.isValid with
    | false => exact .inl ⟨_, s.routes, composePage_invalid files now filter hroute hvalid, by simp⟩
    | true =>
      cases hload : Descriptor.load files route.descriptorPath with
      | error failure =>
        exact .inl ⟨_, _, composePage_unloadable files now filter hroute hvalid hload, by simp⟩
      | ok d => exact .inr ⟨_, rfl, composePage_loaded files now filter hroute hvalid hload⟩

/-- Composing a page changes no more than its route, or else it applies the theme of the page. -/
theorem compose_snd (files : FileTree) (now : Instant) (page : String) (filter : ComponentFilter)
    (s : Site MemoryStore) :
    (∃ routes, (compose files now page filter s).2 = { s with routes }) ∨
      (compose files now page filter s).2 = (pageTheme page s).2 := by
  rw [run_compose]
  rcases run_composePage files now page filter s with
    ⟨outcome, routes, hrun, hpage⟩ | ⟨p, htheme, hrun⟩
  · refine .inl ⟨routes, ?_⟩
    rw [hrun]
    cases outcome with
    | error failure => rfl
    | ok composition =>
      cases composition with
      | page p => exact absurd rfl (hpage p)
      | notFound id reason => rfl
  · refine .inr ?_
    rw [hrun, pageTheme, run_applying]
    dsimp only [composedStyles]
    rw [htheme]
    cases (ThemeEngine.pageTheme page s.themes).1 <;> rfl

/-! ## Calls are steps -/

/-- Whatever it gives, it only takes steps. -/
def Leads (x : SiteM MemoryStore α) : Prop := ∀ s, Steps s (x s).2

theorem leads_pure (a : α) : Leads (pure a) := fun _ => .refl

theorem Leads.bind {x : SiteM MemoryStore α} {f : α → SiteM MemoryStore β} (hx : Leads x)
    (hf : ∀ a, Leads (f a)) : Leads (x >>= f) :=
  Moves.bind (R := Steps) .trans hx hf

theorem Leads.discard {x : SiteM MemoryStore α} (hx : Leads x) : Leads (discard x) :=
  Moves.discard (R := Steps) hx

theorem Leads.forM {f : String → SiteM MemoryStore PUnit} (hf : ∀ page, Leads (f page))
    (pages : List String) : Leads (pages.forM f) :=
  Moves.forM (R := Steps) (fun _ => .refl) .trans hf pages

theorem leads_onRoutes (f : RouteRegistry → α × RouteRegistry) :
    Leads (onRoutes f : SiteM MemoryStore α) :=
  fun s => .single (.registered (f s.routes).2 s.components)

theorem leads_onComponents (f : ComponentRegistry → ComponentRegistry) :
    Leads (onComponents f : SiteM MemoryStore Unit) :=
  fun s => .single (.registered s.routes (f s.components))

theorem leads_applying {call : EngineCall} {m : EngineM MemoryStore ResolvedTheme}
    (forPage : ForPage page call m) : Leads (applying page m) := fun _ => .single (.applied forPage)

theorem leads_refreshAll (order : VisitOrder) : Leads (refreshAll order) := by
  intro s
  rw [refreshAll_snd]
  refine .head (.refreshed order) (Leads.forM (fun page => ?_) _ _)
  intro s
  rw [run_applyAgain]
  exact leads_applying .pageTheme s

theorem leads_compose (files : FileTree) (now : Instant) (page : String)
    (filter : ComponentFilter) : Leads (compose files now page filter) := by
  intro s
  rcases compose_snd files now page filter s with ⟨routes, hnext⟩ | hnext
  · rw [hnext]
    exact .single (.registered routes s.components)
  · rw [hnext]
    exact leads_applying .pageTheme s

/-- **Every call takes steps only.** -/
theorem steps_perform (call : SiteCall) (s : Site MemoryStore) : Steps s (perform call s).2 := by
  cases call with
  | discover files now directory =>
    refine Leads.discard ?_ s
    refine (leads_onRoutes _).bind fun found => ?_
    cases found with
    | error failure => exact fun _ => .refl
    | ok ids =>
      exact Leads.bind (leads_pure ids) fun ids =>
        (Leads.forM (fun id => leads_onComponents _) ids).bind fun _ => leads_pure ids
  | revalidate files now =>
    exact Leads.discard (leads_onRoutes _) s
  | compose files now page filter => exact (leads_compose files now page filter).discard s
  | pageTheme page => exact (leads_applying .pageTheme).discard s
  | applyTheme page id isVariation => exact (leads_applying (.applyTheme id isVariation)).discard s
  | resetTheme page => exact (leads_applying .resetTheme).discard s
  | refreshPage page => exact (leads_applying .refreshPage).discard s
  | refreshAll order => exact leads_refreshAll order s
  | refreshRound pages order =>
    refine (leads_refreshAll order).bind (fun _ => ?_) s
    exact .forM (fun page => (leads_applying .pageTheme).discard) pages

/-- What every step keeps, a sequence of calls keeps. -/
theorem runCalls_induction {P : Site MemoryStore → Prop}
    (step : ∀ {s s' : Site MemoryStore}, P s → Step s s' → P s') (h : P s)
    (calls : List SiteCall) : P (runCalls calls s) := by
  induction calls generalizing s with
  | nil => exact h
  | cons call calls ih => exact ih ((steps_perform call s).induction step h)

/-! ## Reachable sites -/

/-- The sites that come to be from a new one by calls, when the engine gets calls of its own, the
store gets requests from others, and the registries are changed in any way. -/
inductive ReachableWithEdits : Site MemoryStore → Prop
  | new {themes : ThemeEngine MemoryStore} {styles : StyleInjector}
      (engine : themes.ReachableWithEdits) (injector : styles.Reachable) :
      ReachableWithEdits { themes, styles }
  | call {s : Site MemoryStore} (h : ReachableWithEdits s) (call : SiteCall) :
      ReachableWithEdits (perform call s).2
  | engineCall {s : Site MemoryStore} (h : ReachableWithEdits s) (call : EngineCall) :
      ReachableWithEdits { s with themes := (ThemeEngine.perform call s.themes).2 }
  | edit {s : Site MemoryStore} (h : ReachableWithEdits s) (edit : StoreCall) :
      ReachableWithEdits { s with themes :=
        { s.themes with store := (MemoryStore.perform edit s.themes.store).2 } }
  | register {s : Site MemoryStore} (h : ReachableWithEdits s) (routes : RouteRegistry)
      (components : ComponentRegistry) : ReachableWithEdits { s with routes, components }

/-- The engine of a site, and its injector, are reachable. -/
structure PartsReachable (s : Site MemoryStore) : Prop where
  themes : s.themes.ReachableWithEdits
  styles : s.styles.Reachable

theorem ForPage.perform_snd {call : EngineCall} {m : EngineM MemoryStore ResolvedTheme}
    (h : ForPage page call m) (e : ThemeEngine MemoryStore) :
    (ThemeEngine.perform call e).2 = (m e).2 := by
  cases h <;> rw [ThemeEngine.perform, run_discard]

theorem PartsReachable.step (h : PartsReachable s) (hs : Step s s') : PartsReachable s' := by
  cases hs with
  | registered => exact ⟨h.themes, h.styles⟩
  | refreshed order =>
    have hcall := h.themes.call (.refreshAll order)
    rw [ThemeEngine.perform, run_discard] at hcall
    exact ⟨hcall, h.styles⟩
  | @applied page call m forPage =>
    rw [run_applying]
    refine ⟨forPage.perform_snd s.themes ▸ h.themes.call call, ?_⟩
    cases (m s.themes).1 with
    | error failure => exact h.styles
    | ok t => exact h.styles.inject page t

theorem ReachableWithEdits.parts (h : s.ReachableWithEdits) : s.PartsReachable := by
  induction h with
  | new engine injector => exact ⟨engine, injector⟩
  | call _ call ih => exact (steps_perform call _).induction PartsReachable.step ih
  | engineCall _ call ih => exact ⟨ih.themes.call call, ih.styles⟩
  | edit _ edit ih => exact ⟨ih.themes.edit edit, ih.styles⟩
  | register _ _ _ ih => exact ⟨ih.themes, ih.styles⟩

end Site

end ThemedPages
