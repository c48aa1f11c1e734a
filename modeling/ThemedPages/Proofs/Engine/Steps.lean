import Mathlib.Logic.Relation
import ThemedPages.Proofs.Engine.Mutations

/-!
# What calls do to an engine

An `EngineCall` is an operation of an engine with its arguments, or the store going offline or
online. `Quiet e e'` lists what an engine does to its cache and to the states of its pages while its
store stays as it is; `Edit e edit e'` lists what it does to them together with a change of the
store.

**Theorem (`made_perform`).** Every call, whether it succeeds or fails, makes at most one change of
the store, the one that it is for, and takes only quiet steps after that.

An invariant of the engine is therefore shown over the cases of `Quiet` and of `Edit`, and carried
over a sequence of calls by `runCalls_induction`.

`Reachable` are the engines that calls lead to; for `ReachableWithEdits`, others may write to the
store in between.
-/

namespace ThemedPages

/-! ## Calls -/

/-- A call of an engine, or a change of whether its store can be reached. -/
inductive EngineCall
  | pageTheme (page : String)
  | applyTheme (page id : String) (isVariation : Bool)
  | resetTheme (page : String)
  | refreshPage (page : String)
  | refreshAll (order : VisitOrder)
  | refreshRound (pages : List String) (order : VisitOrder)
  | listThemes (filter : ThemeFilter)
  | listVariations (filter : VariationFilter)
  | createTheme (data : NewTheme)
  | createVariation (parentId : String) (data : NewVariation) (now : Instant)
  | updateTheme (id : String) (patch : ThemePatch)
  | deleteTheme (id : String)
  | setDefaultTheme (id : String)
  | setOffline (offline : Bool)

namespace ThemeEngine

/-- Do what a call asks for. -/
def perform : EngineCall → EngineM MemoryStore Unit
  | .pageTheme page => discard (pageTheme page)
  | .applyTheme page id isVariation => discard (applyTheme page id isVariation)
  | .resetTheme page => discard (resetTheme page)
  | .refreshPage page => discard (refreshPage page)
  | .refreshAll order => discard (refreshAll order)
  | .refreshRound pages order => refreshRound pages order
  | .listThemes filter => discard (listThemes filter)
  | .listVariations filter => discard (listVariations filter)
  | .createTheme data => discard (createTheme data)
  | .createVariation parentId data now => discard (createVariation parentId data now)
  | .updateTheme id patch => discard (updateTheme id patch)
  | .deleteTheme id => deleteTheme id
  | .setDefaultTheme id => discard (setDefaultTheme id)
  | .setOffline offline => modify fun e => { e with store := { e.store with offline } }

/-- The engine after a sequence of calls. -/
def runCalls (calls : List EngineCall) (e : ThemeEngine MemoryStore) : ThemeEngine MemoryStore :=
  calls.foldl (fun e call => (perform call e).2) e

/-- The request to the store that a call may come to. All its other requests only read. -/
inductive Makes : EngineCall → StoreCall → Prop
  | applyTheme {page id : String} {isVariation : Bool} (target : AssignmentTarget) :
      Makes (.applyTheme page id isVariation) (.assign page target)
  | resetTheme {page : String} : Makes (.resetTheme page) (.deleteAssignment page)
  | createTheme {data : NewTheme} {draft : ThemeDraft} (drafted : data.draft = .ok draft) :
      Makes (.createTheme data) (.createTheme draft)
  | createVariation {parentId : String} {data : NewVariation} {now : Instant}
      (draft : VariationDraft) :
      Makes (.createVariation parentId data now) (.createVariation parentId draft)
  | updateTheme {id : String} {patch : ThemePatch} :
      Makes (.updateTheme id patch) (.updateTheme id patch)
  | deleteTheme {id : String} : Makes (.deleteTheme id) (.deleteTheme id)
  | setDefaultTheme {id : String} : Makes (.setDefaultTheme id) (.setDefaultTheme id)
  | setOffline {offline : Bool} : Makes (.setOffline offline) (.setOffline offline)

/-! ## Steps -/

/-- What an engine does at once without a change of its store. -/
inductive Quiet (e : ThemeEngine MemoryStore) : ThemeEngine MemoryStore → Prop
  | served {page : String} {outcome : Except Failure ResolvedTheme}
      {e' : ThemeEngine MemoryStore} (serves : Served e page outcome e') : Quiet e e'
  | announced (change : ThemeChange) : Quiet e { e with changes := e.changes ++ [change] }
  | dropped (page : String) :
      Quiet e { e with cache := dropPage e.cache page, states := e.states.erase page }
  | cleared : Quiet e { e with cache := e.cache.clear, states := .empty }

/-- What an engine does at once with a change of its store. -/
inductive Edit (e : ThemeEngine MemoryStore) : StoreCall → ThemeEngine MemoryStore → Prop
  | assign {page : String} {target : AssignmentTarget} {key : ThemeKey}
      {state : ResolutionState} {t : ResolvedTheme} {s : MemoryStore}
      (stored : e.store.Change (.assign page target) s)
      (leads : target.key page = .ok (key, state)) (found : e.store.themeAt key = .ok t)
      (known : ∀ id, target.Names id → e.store.hasId id = true) :
      Edit e (.assign page target) { e with
        store := s
        cache := e.cache.bind page key t
        states := e.states.insert page state }
  | deleteAssignment {page : String} {s : MemoryStore}
      (stored : e.store.Change (.deleteAssignment page) s) :
      Edit e (.deleteAssignment page) { e with
        store := s, cache := e.cache.unbind page, states := e.states.erase page }
  | createTheme {draft : ThemeDraft} {s : MemoryStore}
      (stored : e.store.Change (.createTheme draft) s) (ordinary : draft.isDefault = false) :
      Edit e (.createTheme draft) { e with store := s }
  | createVariation {parentId : String} {draft : VariationDraft} {s : MemoryStore}
      (stored : e.store.Change (.createVariation parentId draft) s) :
      Edit e (.createVariation parentId draft) { e with store := s }
  | updateTheme {id : String} {patch : ThemePatch} {s : MemoryStore}
      (stored : e.store.Change (.updateTheme id patch) s) :
      Edit e (.updateTheme id patch) (invalidateFamily id { e with store := s }).2
  | deleteTheme {id : String} {s : MemoryStore} (stored : e.store.Change (.deleteTheme id) s) :
      Edit e (.deleteTheme id) (invalidateFamily id { e with store := s }).2
  | setDefaultTheme {id : String} {s : MemoryStore}
      (stored : e.store.Change (.setDefaultTheme id) s) :
      Edit e (.setDefaultTheme id) (forgetDefaulted { e with store := s }).2
  | setOffline (offline : Bool) :
      Edit e (.setOffline offline) { e with store := { e.store with offline } }

/-- Quiet steps, one after the other. -/
abbrev Quiets : ThemeEngine MemoryStore → ThemeEngine MemoryStore → Prop :=
  Relation.ReflTransGen Quiet

/-- What a call comes to: quiet steps only, or one change of the store and then quiet steps. -/
inductive Made (call : EngineCall) (e e' : ThemeEngine MemoryStore) : Prop
  | quietly (quiet : Quiets e e') : Made call e e'
  | edited {edit : StoreCall} {e₁ : ThemeEngine MemoryStore} (makes : Makes call edit)
      (edits : Edit e edit e₁) (quiet : Quiets e₁ e') : Made call e e'

variable {e e' : ThemeEngine MemoryStore}

theorem Quiet.store_eq (hq : Quiet e e') : e'.store = e.store := by
  cases hq with
  | served serves => cases serves <;> rfl
  | _ => rfl

theorem Quiets.induction {P : ThemeEngine MemoryStore → Prop}
    (step : ∀ {e e' : ThemeEngine MemoryStore}, P e → Quiet e e' → P e') (h : P e)
    (hq : Quiets e e') : P e' := by
  induction hq with
  | refl => exact h
  | tail _ hstep ih => exact step ih hstep

theorem Quiets.store_eq (hq : Quiets e e') : e'.store = e.store :=
  hq.induction (P := fun e₁ => e₁.store = e.store) (fun h hstep => hstep.store_eq.trans h) rfl

theorem Quiets.fallback_eq (hq : Quiets e e') : e'.fallback = e.fallback := by
  refine hq.induction (P := fun e₁ => e₁.fallback = e.fallback) (fun h hstep => ?_) rfl
  cases hstep with
  | served serves => cases serves <;> exact h
  | _ => exact h

theorem Edit.fallback_eq {edit : StoreCall} (he : Edit e edit e') : e'.fallback = e.fallback := by
  cases he <;> rfl

theorem Edit.change {edit : StoreCall} (he : Edit e edit e') : e.store.Change edit e'.store := by
  cases he with
  | setOffline offline => exact .setOffline offline
  | assign stored | deleteAssignment stored | createTheme stored | createVariation stored
  | updateTheme stored | deleteTheme stored | setDefaultTheme stored => exact stored

/-! ## Operations that leave the store alone -/

/-- Quiet steps lead from an engine to another, if its store is as it should be. -/
abbrev QuietlyTo (e e' : ThemeEngine MemoryStore) : Prop := e.store.Integrity → Quiets e e'

/-- The second engine has the same store. -/
theorem QuietlyTo.trans {e₁ e₂ e₃ : ThemeEngine MemoryStore} (first : QuietlyTo e₁ e₂)
    (second : QuietlyTo e₂ e₃) : QuietlyTo e₁ e₃ :=
  fun h => (first h).trans (second ((first h).store_eq ▸ h))

/-- Whatever it gives, it only takes quiet steps. -/
def IsQuiet (x : EngineM MemoryStore α) : Prop :=
  ∀ e : ThemeEngine MemoryStore, e.store.Integrity → Quiets e (x e).2

theorem isQuiet_pure (a : α) : IsQuiet (pure a) := fun _ _ => .refl

theorem isQuiet_throw (failure : Failure) : IsQuiet (throw failure : EngineM MemoryStore α) :=
  fun _ _ => .refl

theorem IsQuiet.bind {x : EngineM MemoryStore α} {f : α → EngineM MemoryStore β}
    (hx : IsQuiet x) (hf : ∀ a, IsQuiet (f a)) : IsQuiet (x >>= f) :=
  Moves.bind (R := QuietlyTo) QuietlyTo.trans hx hf

theorem IsQuiet.discard {x : EngineM MemoryStore α} (hx : IsQuiet x) : IsQuiet (discard x) :=
  Moves.discard (R := QuietlyTo) hx

theorem IsQuiet.observing {x : EngineM MemoryStore α} (hx : IsQuiet x) :
    IsQuiet (observing x) :=
  Moves.observing (R := QuietlyTo) hx

theorem isQuiet_read (request : String) (f : MemoryStore → α) :
    IsQuiet (ask (MemoryStore.read request f)) := fun _ _ => .refl

theorem isQuiet_announce (change : ThemeChange) : IsQuiet (announce change) :=
  fun _ _ => .single (.announced change)

theorem isQuiet_pageTheme (page : String) : IsQuiet (pageTheme page) :=
  fun _ h => .single (.served (served_pageTheme h page))

/-- Serving a page and announcing what it was served. -/
theorem isQuiet_pageTheme_announce (page : String) :
    IsQuiet (do
      let t ← pageTheme page
      announce (.page page t)
      return t) :=
  (isQuiet_pageTheme page).bind fun _ => (isQuiet_announce _).bind fun _ => isQuiet_pure _

theorem isQuiet_refreshPage (page : String) : IsQuiet (refreshPage page) :=
  fun _ h => .head (.dropped page) (isQuiet_pageTheme_announce page _ h)

theorem isQuiet_resolveAll (known : List (String × Option Styles)) :
    IsQuiet (resolveAll known) := by
  induction known with
  | nil => exact isQuiet_pure none
  | cons entry known ih =>
    obtain ⟨page, old?⟩ := entry
    refine (isQuiet_pageTheme page).observing.bind fun outcome => ?_
    cases outcome with
    | error failure => exact (isQuiet_pure _).bind fun _ => ih.bind fun _ => isQuiet_pure _
    | ok t =>
      dsimp only
      split
      · exact ((isQuiet_announce _).bind fun _ => isQuiet_pure _).bind fun _ =>
          ih.bind fun _ => isQuiet_pure _
      · exact (isQuiet_pure _).bind fun _ => ih.bind fun _ => isQuiet_pure _

/-- List the themes and resolve pages again, once everything that was cached is dropped. -/
def refreshKnown (known : List (String × Option Styles)) :
    EngineM MemoryStore (List ThemeListing) := do
  announce .refreshed
  let themes ← ask (ThemeStore.listThemes .all)
  match ← resolveAll known with
  | some failure => throw failure
  | none => return themes

/-- The known pages, each with the properties of the theme that is cached for it. -/
def knownEntries (order : VisitOrder) (e : ThemeEngine MemoryStore) :
    List (String × Option Styles) :=
  (order.arrange e.states.keys).map fun page =>
    (page, (e.cache.pageTheme? page).map ResolvedTheme.properties)

theorem map_fst_knownEntries (order : VisitOrder) (e : ThemeEngine MemoryStore) :
    (knownEntries order e).map Prod.fst = order.arrange e.states.keys := by
  simp [knownEntries, Function.comp_def]

/-- An engine that has dropped what it had cached and noted. -/
def cleared (e : ThemeEngine MemoryStore) : ThemeEngine MemoryStore :=
  { e with cache := e.cache.clear, states := .empty }

/-- A full refresh drops everything before all else. -/
theorem run_refreshAll (order : VisitOrder) (e : ThemeEngine MemoryStore) :
    refreshAll order e = refreshKnown (knownEntries order e) e.cleared := rfl

theorem isQuiet_refreshKnown (known : List (String × Option Styles)) :
    IsQuiet (refreshKnown known) := by
  refine (isQuiet_announce _).bind fun _ => ?_
  refine (isQuiet_read "list_themes" _).bind fun themes => ?_
  refine (isQuiet_resolveAll known).bind fun failure? => ?_
  cases failure? with
  | none => exact isQuiet_pure themes
  | some failure => exact isQuiet_throw failure

theorem isQuiet_refreshAll (order : VisitOrder) : IsQuiet (refreshAll order) := by
  intro e h
  rw [run_refreshAll]
  exact .head .cleared (isQuiet_refreshKnown _ _ h)

theorem isQuiet_refreshRound (pages : List String) (order : VisitOrder) :
    IsQuiet (refreshRound pages order) := by
  refine (isQuiet_refreshAll order).bind fun _ => ?_
  exact Moves.forM (R := QuietlyTo) (fun _ _ => .refl) QuietlyTo.trans
    (fun page => (isQuiet_pageTheme page).discard) pages

/-! ## Operations that change the store -/

theorem Refused.made {x : EngineM MemoryStore α} {call : EngineCall} (h : Refused x e) :
    Made call e (x e).2 := by
  obtain ⟨failure, hrun⟩ := h
  rw [hrun]
  exact .quietly .refl

theorem made_applyTheme (h : e.store.Integrity) (page id : String) (isVariation : Bool) :
    Made (.applyTheme page id isVariation) e (applyTheme page id isVariation e).2 := by
  rcases run_applyTheme h page id isVariation with
    hrefused | ⟨key, t, target, state, leads, found, known, stored, hrun⟩
  · exact hrefused.made
  · rw [hrun]
    exact .edited (.applyTheme target) (.assign stored leads found known) (.single (.announced _))

theorem made_resetTheme (h : e.store.Integrity) (page : String) :
    Made (.resetTheme page) e (resetTheme page e).2 := by
  cases hoff : e.store.offline with
  | true => exact (refused_resetTheme hoff page).made
  | false =>
    have stored := MemoryStore.Change.deleteAssignment (s := e.store) page
    have hquiet := isQuiet_pageTheme_announce page (e.unassigned page) (h.change stored)
    rw [run_pageTheme_announce] at hquiet
    rw [run_resetTheme hoff]
    exact .edited .resetTheme (.deleteAssignment stored) hquiet

theorem made_createTheme (data : NewTheme) (e : ThemeEngine MemoryStore) :
    Made (.createTheme data) e (createTheme data e).2 := by
  rcases run_createTheme data e with hrefused | ⟨draft, t, drafted, -, stored, hrun⟩
  · exact hrefused.made
  · rw [hrun]
    exact .edited (.createTheme drafted) (.createTheme stored (draft_ordinary drafted).1) .refl

theorem made_createVariation (h : e.store.Integrity) (parentId : String) (data : NewVariation)
    (now : Instant) :
    Made (.createVariation parentId data now) e (createVariation parentId data now e).2 := by
  rcases run_createVariation h parentId data now with hrefused | ⟨draft, v, -, stored, hrun⟩
  · exact hrefused.made
  · rw [hrun]
    exact .edited (.createVariation draft) (.createVariation stored) .refl

theorem made_updateTheme (id : String) (patch : ThemePatch) (e : ThemeEngine MemoryStore) :
    Made (.updateTheme id patch) e (updateTheme id patch e).2 := by
  rcases run_updateTheme id patch e with hrefused | ⟨t, stored, hrun⟩
  · exact hrefused.made
  · rw [hrun]
    exact .edited .updateTheme (.updateTheme stored) .refl

theorem made_deleteTheme (id : String) (e : ThemeEngine MemoryStore) :
    Made (.deleteTheme id) e (deleteTheme id e).2 := by
  rcases run_deleteTheme id e with hrefused | ⟨stored, hrun⟩
  · exact hrefused.made
  · rw [hrun]
    exact .edited .deleteTheme (.deleteTheme stored) .refl

theorem made_setDefaultTheme (id : String) (e : ThemeEngine MemoryStore) :
    Made (.setDefaultTheme id) e (setDefaultTheme id e).2 := by
  rcases run_setDefaultTheme id e with hrefused | ⟨t, stored, hrun⟩
  · exact hrefused.made
  · rw [hrun]
    exact .edited .setDefaultTheme (.setDefaultTheme stored) .refl

/-! ## All calls -/

/-- **A call makes at most one change of the store**, the one that it is for. -/
theorem made_perform (h : e.store.Integrity) (call : EngineCall) :
    Made call e (perform call e).2 := by
  cases call with
  | pageTheme page => exact .quietly ((isQuiet_pageTheme page).discard e h)
  | applyTheme page id isVariation =>
    rw [perform, run_discard]
    exact made_applyTheme h page id isVariation
  | resetTheme page =>
    rw [perform, run_discard]
    exact made_resetTheme h page
  | refreshPage page => exact .quietly ((isQuiet_refreshPage page).discard e h)
  | refreshAll order => exact .quietly ((isQuiet_refreshAll order).discard e h)
  | refreshRound pages order => exact .quietly (isQuiet_refreshRound pages order e h)
  | listThemes filter => exact .quietly ((isQuiet_read "list_themes" _).discard e h)
  | listVariations filter => exact .quietly ((isQuiet_read "list_variations" _).discard e h)
  | createTheme data =>
    rw [perform, run_discard]
    exact made_createTheme data e
  | createVariation parentId data now =>
    rw [perform, run_discard]
    exact made_createVariation h parentId data now
  | updateTheme id patch =>
    rw [perform, run_discard]
    exact made_updateTheme id patch e
  | deleteTheme id => exact made_deleteTheme id e
  | setDefaultTheme id =>
    rw [perform, run_discard]
    exact made_setDefaultTheme id e
  | setOffline offline => exact .edited .setOffline (.setOffline offline) .refl

/-- The store after a call is as it was, or it was changed as the call asks for. -/
theorem store_perform (h : e.store.Integrity) (call : EngineCall) :
    (perform call e).2.store = e.store ∨
      ∃ edit, Makes call edit ∧ e.store.Change edit (perform call e).2.store := by
  rcases made_perform h call with quiet | ⟨makes, edits, quiet⟩
  · exact .inl quiet.store_eq
  · exact .inr ⟨_, makes, quiet.store_eq ▸ edits.change⟩

theorem integrity_perform (h : e.store.Integrity) (call : EngineCall) :
    (perform call e).2.store.Integrity := by
  rcases store_perform h call with hsame | ⟨edit, -, hchange⟩
  · rwa [hsame]
  · exact h.change hchange

theorem fallback_perform (h : e.store.Integrity) (call : EngineCall) :
    (perform call e).2.fallback = e.fallback := by
  rcases made_perform h call with quiet | ⟨-, edits, quiet⟩
  · exact quiet.fallback_eq
  · exact quiet.fallback_eq.trans edits.fallback_eq

/-- What every call keeps, a sequence of calls keeps. -/
theorem runCalls_induction {P : ThemeEngine MemoryStore → Prop} {calls : List EngineCall}
    (step : ∀ call ∈ calls, ∀ e : ThemeEngine MemoryStore, P e → P (perform call e).2)
    (h : P e) : P (runCalls calls e) := by
  induction calls generalizing e with
  | nil => exact h
  | cons call calls ih =>
    exact ih (fun c hc => step c (List.mem_cons_of_mem call hc))
      (step call List.mem_cons_self e h)

theorem integrity_runCalls (h : e.store.Integrity) (calls : List EngineCall) :
    (runCalls calls e).store.Integrity :=
  runCalls_induction (P := fun e => e.store.Integrity)
    (fun call _ _ h => integrity_perform h call) h

theorem fallback_runCalls (h : e.store.Integrity) (calls : List EngineCall) :
    (runCalls calls e).fallback = e.fallback := by
  have hboth : (runCalls calls e).store.Integrity ∧ (runCalls calls e).fallback = e.fallback :=
    runCalls_induction (P := fun e₁ => e₁.store.Integrity ∧ e₁.fallback = e.fallback)
      (fun call _ _ h => ⟨integrity_perform h.1 call, (fallback_perform h.1 call).trans h.2⟩)
      ⟨h, rfl⟩
  exact hboth.2

/-! ## Reachable engines -/

/-- The engines that come to be by calls, over a store that was opened and that nothing else writes
to. -/
inductive Reachable : ThemeEngine MemoryStore → Prop
  | opened {snapshot : StoreSnapshot} {s : MemoryStore} (opened : MemoryStore.Opened snapshot s)
      (fallback : Option ResolvedTheme) : Reachable { store := s, fallback }
  | call {e : ThemeEngine MemoryStore} (h : Reachable e) (call : EngineCall) :
      Reachable (perform call e).2

/-- The engines that come to be when others send requests to the store as well. -/
inductive ReachableWithEdits : ThemeEngine MemoryStore → Prop
  | opened {snapshot : StoreSnapshot} {s : MemoryStore} (opened : MemoryStore.Opened snapshot s)
      (fallback : Option ResolvedTheme) : ReachableWithEdits { store := s, fallback }
  | call {e : ThemeEngine MemoryStore} (h : ReachableWithEdits e) (call : EngineCall) :
      ReachableWithEdits (perform call e).2
  | edit {e : ThemeEngine MemoryStore} (h : ReachableWithEdits e) (edit : StoreCall) :
      ReachableWithEdits { e with store := (MemoryStore.perform edit e.store).2 }

theorem ReachableWithEdits.integrity (h : e.ReachableWithEdits) : e.store.Integrity := by
  induction h with
  | opened opened fallback => exact MemoryStore.integrity_opened opened
  | call h call ih => exact integrity_perform ih call
  | edit h edit ih => exact ih.run [edit]

end ThemeEngine

end ThemedPages
