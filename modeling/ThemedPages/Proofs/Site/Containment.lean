import ThemedPages.Proofs.Route.Checks
import ThemedPages.Proofs.Site.Verdicts

/-!
# Pages that cannot be composed

Composing a page fails only if its route is valid and its descriptor does not load. What has to do
with themes and styles comes after the descriptor, so a failure does not get that far: it is kept at
the route, which is not valid from then on.

**Theorem (`failed_composition_contained`).** A composition that fails changes nothing but the route
of its page. After that the page is not found, whatever the files hold and whatever happens to the
site, until its route is checked on request or taken out.

The invariant of what follows is `RouteRegistry.Rejects`: the page has a route that is not valid. A
page of such a route is not loaded, so that composing it makes no check; and a new record or a page
that is discovered does not stand over a route that is there.
-/

namespace ThemedPages

variable {σ : Type} [ThemeStore σ] {page : String}

/-! ## Routes that are not valid -/

/-- A call of a route registry does not check the route of a page on request, and does not take it
out. -/
def RouteCall.Spares (page : String) : RouteCall σ → Prop
  | .register _ => True
  | .unregister id => id ≠ page
  | .update _ _ => True
  | .check (.one _ _ _ id) => id ≠ page
  | .check (.all _ _ _) => False
  | .check (.compose _ _ _ _ _) => True

namespace RouteRegistry

variable {r : RouteRegistry} {files : FileTree} {now : Instant}

/-- A page has a route, which is not valid. -/
def Rejects (r : RouteRegistry) (page : String) : Prop :=
  ∃ route, r.get? page = some route ∧ route.isValid = false

theorem Rejects.of_get?_eq {r' : RouteRegistry} (h : r.Rejects page)
    (same : r'.get? page = r.get? page) : r'.Rejects page := by
  obtain ⟨route, hroute, hinvalid⟩ := h
  exact ⟨route, same.trans hroute, hinvalid⟩

theorem Rejects.recordCheck (h : r.Rejects page) (id : String) (now : Instant) :
    (r.recordCheck id false now).Rejects page := by
  by_cases hid : page = id
  · obtain ⟨route, hroute, -⟩ := h
    refine ⟨{ route with isValid := false, lastChecked := some now }, ?_, rfl⟩
    rw [get?_recordCheck, if_pos hid, hroute]
    rfl
  · exact h.of_get?_eq (by rw [get?_recordCheck, if_neg hid])

/-- Composing a page checks at most its own route, and finds that it is not valid. -/
theorem Rejects.composePage {s : Site σ} (h : s.routes.Rejects page) (files : FileTree)
    (now : Instant) (q : String) (filter : ComponentFilter) :
    (Site.composePage files now q filter s).2.routes.Rejects page := by
  rw [routes_composePage]
  cases s.routes.get? q with
  | none => exact h
  | some route =>
    dsimp only
    split
    · exact h.recordCheck q now
    · exact h

/-- **A route that is not valid stays so** until it is checked on request or taken out. -/
theorem Rejects.perform (h : r.Rejects page) {call : RouteCall σ} (spares : call.Spares page) :
    (r.perform call).Rejects page := by
  obtain ⟨route, hroute, hinvalid⟩ := h
  cases call with
  | register new =>
    refine ⟨route, ?_, hinvalid⟩
    rw [get?_perform_register, if_neg, hroute]
    -- A new record is taken only for a page without a route.
    rintro ⟨hnone, rfl⟩
    rw [hroute] at hnone
    nomatch hnone
  | unregister id =>
    refine ⟨route, ?_, hinvalid⟩
    rw [get?_perform_unregister, if_neg (Ne.symm spares), hroute]
  | update id patch =>
    rw [Rejects, get?_perform_update, hroute]
    split
    · exact ⟨_, rfl, hinvalid⟩
    · exact ⟨route, rfl, hinvalid⟩
  | check check =>
    have h : r.Rejects page := ⟨route, hroute, hinvalid⟩
    cases check with
    | one files components now id =>
      refine h.of_get?_eq ?_
      rw [RouteRegistry.perform, performCheck, get?_revalidate, if_neg (Ne.symm spares)]
    | all files components now => exact absurd spares id
    | compose site files now q filter =>
      exact Rejects.composePage (s := { site with routes := r }) h files now q filter

/-- Discovery leaves pages alone that have a route. -/
theorem Rejects.discover (h : r.Rejects page) (files : FileTree) (directory : String)
    (now : Instant) : (r.discover files directory now).2.Rejects page := by
  rcases r.get?_discover page with hsame | ⟨hnone, -⟩
  · exact h.of_get?_eq hsame
  · obtain ⟨route, hroute, -⟩ := h
    rw [hroute] at hnone
    nomatch hnone

end RouteRegistry

/-! ## Failing to compose -/

namespace Site

variable {s s' : Site σ} {files : FileTree} {now : Instant} {filter : ComponentFilter}
  {failure : Failure}

/-- **Composing a page fails** if its route is valid and its descriptor does not load. -/
theorem compose_eq_error_iff : (compose files now page filter s).1 = .error failure ↔
    ∃ route, s.routes.get? page = some route ∧ route.isValid = true ∧
      Descriptor.load files route.descriptorPath = .error failure := by
  rw [run_compose]
  dsimp only
  cases hroute : s.routes.get? page with
  | none =>
    rw [composePage_unknown files now filter hroute]
    simp
  | some route =>
    cases hvalid : route.isValid with
    | false =>
      rw [composePage_invalid files now filter hroute hvalid]
      simp [hvalid]
    | true =>
      cases hload : Descriptor.load files route.descriptorPath with
      | error failure' =>
        rw [composePage_unloadable files now filter hroute hvalid hload]
        simp [hvalid, hload]
      | ok d =>
        rw [composePage_loaded files now filter hroute hvalid hload]
        simp [hload]

theorem compose_unloadable {route : Route} (found : s.routes.get? page = some route)
    (valid : route.isValid = true)
    (unloadable : Descriptor.load files route.descriptorPath = .error failure) :
    (compose files now page filter s).2 =
      { s with routes := s.routes.recordCheck page false now } := by
  rw [run_compose, composePage_unloadable files now filter found valid unloadable]
  rfl

/-- **A page of a route that is not valid is not found**, and looking for it changes nothing. -/
theorem compose_rejected (h : s.routes.Rejects page) (files : FileTree) (now : Instant)
    (filter : ComponentFilter) :
    compose files now page filter s = (.ok (.notFound page .invalidRoute), s) := by
  obtain ⟨route, hroute, hinvalid⟩ := h
  rw [run_compose, composePage_invalid files now filter hroute hinvalid]
  rfl

/-- What may become of a site while the route of a page is not checked on request and not taken out:
pages are composed and discovered, the registry of routes gets other calls, and everything else
changes in any way. -/
inductive Meanwhile (page : String) (s : Site σ) : Site σ → Prop
  | start : Meanwhile page s s
  | composed {s' : Site σ} (h : Meanwhile page s s') (files : FileTree) (now : Instant)
      (q : String) (filter : ComponentFilter) :
      Meanwhile page s (compose files now q filter s').2
  | discovered {s' : Site σ} (h : Meanwhile page s s') (files : FileTree) (now : Instant)
      (directory : String) : Meanwhile page s (discover files now directory s').2
  | routed {s' : Site σ} (h : Meanwhile page s s') {call : RouteCall σ}
      (spares : call.Spares page) :
      Meanwhile page s { s' with routes := s'.routes.perform call }
  | changed {s' : Site σ} (h : Meanwhile page s s') (components : ComponentRegistry)
      (themes : ThemeEngine σ) (styles : StyleInjector) :
      Meanwhile page s { s' with components, themes, styles }

theorem Meanwhile.of_same {s s' s'' : Site MemoryStore} (h : Meanwhile page s s')
    (same : SameRegistries s' s'') : Meanwhile page s s'' := by
  obtain ⟨routes, components, themes, styles⟩ := s''
  obtain ⟨rfl, rfl⟩ := same
  exact h.changed s'.components themes styles

theorem Meanwhile.rejects (on : Meanwhile page s s') (h : s.routes.Rejects page) :
    s'.routes.Rejects page := by
  induction on with
  | start => exact h
  | composed _ files now q filter ih =>
    rw [run_compose]
    exact ih.composePage files now q filter
  | discovered _ files now directory ih =>
    rw [run_discover]
    exact ih.discover files directory now
  | routed _ spares ih => exact ih.perform spares
  | changed _ components themes styles ih => exact ih

/-- Calls of a site are of this kind, but for one: to check all routes. -/
theorem Meanwhile.perform {s s' : Site MemoryStore} (h : Meanwhile page s s') (call : SiteCall)
    (unchecked : ∀ files now, call ≠ .revalidate files now) :
    Meanwhile page s (perform call s').2 := by
  cases call with
  | discover files now directory =>
    rw [Site.perform, run_discard]
    exact h.discovered files now directory
  | revalidate files now => exact absurd rfl (unchecked files now)
  | compose files now q filter =>
    rw [Site.perform, run_discard]
    exact h.composed files now q filter
  | _ =>
    refine h.of_same (sameRegistries_perform ?_ s')
    exact trivial

/-- **A failing composition is contained.** -/
theorem failed_composition_contained
    (failed : (compose files now page filter s).1 = .error failure) :
    ∃ route s', s.routes.get? page = some route ∧ route.isValid = true ∧
      Descriptor.load files route.descriptorPath = .error failure ∧
      (compose files now page filter s).2 = s' ∧
      s'.themes = s.themes ∧ s'.styles = s.styles ∧ s'.components = s.components ∧
      (∀ q, q ≠ page → s'.routes.get? q = s.routes.get? q) ∧
      s'.routes.get? page =
        some { route with isValid := false, lastChecked := some now } ∧
      ∀ s'', Meanwhile page s' s'' → ∀ files' now' filter',
        compose files' now' page filter' s'' = (.ok (.notFound page .invalidRoute), s'') := by
  obtain ⟨route, hroute, hvalid, hload⟩ := compose_eq_error_iff.1 failed
  have hchecked : (s.routes.recordCheck page false now).get? page =
      some { route with isValid := false, lastChecked := some now } := by
    rw [RouteRegistry.get?_recordCheck, if_pos rfl, hroute]
    rfl
  refine ⟨route, _, hroute, hvalid, hload, compose_unloadable hroute hvalid hload, rfl, rfl, rfl,
    fun q hq => ?_, hchecked, fun s'' on => ?_⟩
  · exact (RouteRegistry.get?_recordCheck _ _ _ _ _).trans (if_neg hq)
  · exact compose_rejected (on.rejects ⟨_, hchecked, rfl⟩)

/-- A site with a route of which the descriptor is not there. -/
def undescribed : Site MemoryStore where
  routes := ⟨Table.empty.insert "home"
    { id := "home", info := { title := "Home", path := "/" }, descriptorPath := "home.yaml" }⟩
  themes := { store := {} }
  styles := { target := .emptyDocument }

/-- The descriptor that was not there. -/
def describedHome : FileTree where
  entries := Table.empty.insert "home.yaml" <| .text <|
    "page:\n  title: Home\n  route: /\nlayout:\n  type: grid\ncomponents: []\n"

theorem contained_of_undescribed :
    (compose {} ⟨0, 0⟩ "home" .all undescribed).1 = .error (.notFound .descriptor "home.yaml") ∧
    (Descriptor.load describedHome "home.yaml").isOk = true ∧
    ∃ s, (compose {} ⟨0, 0⟩ "home" .all undescribed).2 = s ∧
      s.themes = undescribed.themes ∧
      (compose describedHome ⟨1, 0⟩ "home" .all
        (perform (.pageTheme "home") (perform (.discover describedHome ⟨1, 0⟩ ".") s).2).2).1 =
          .ok (.notFound "home" .invalidRoute) := by
  have failed : (compose {} ⟨0, 0⟩ "home" .all undescribed).1 =
      .error (.notFound .descriptor "home.yaml") :=
    compose_eq_error_iff.2 ⟨_, rfl, rfl, by decide +kernel⟩
  obtain ⟨route, s, -, -, -, hs, hthemes, -, -, -, -, hlater⟩ :=
    failed_composition_contained failed
  have hdiscovered : Meanwhile "home" s (perform (.discover describedHome ⟨1, 0⟩ ".") s).2 :=
    Meanwhile.start.perform (.discover describedHome ⟨1, 0⟩ ".") nofun
  refine ⟨failed, by decide +kernel, s, hs, hthemes, ?_⟩
  rw [hlater _ (hdiscovered.perform (.pageTheme "home") nofun)]

end Site

end ThemedPages
