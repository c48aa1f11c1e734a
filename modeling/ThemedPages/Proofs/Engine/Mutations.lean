import ThemedPages.Proofs.Engine.Resolution
import ThemedPages.Proofs.Store.Naming

/-!
# Operations that change the store

An operation that changes the store looks up what it needs, asks for one change, and then notes what
has changed. Only the first two can fail, and both before anything has happened.

**Theorems (`run_applyTheme`, `run_createTheme`, `run_createVariation`, `run_updateTheme`,
`run_deleteTheme`, `run_setDefaultTheme`).** An operation is refused, and the engine and its store
are as they were, or the store has made the change that was asked for.

**Theorem (`run_resetTheme`).** Removing an assignment is the exception: the page is resolved again
when its assignment is gone already.

**Theorem (`run_pageTheme_unassigned`).** That fails when there is neither a default theme nor a
fallback.
-/

namespace ThemedPages.ThemeEngine

variable {e : ThemeEngine MemoryStore} {page id : String}

/-! ## Requests for changes -/

/-- An operation fails, and nothing has happened. -/
def Refused (x : EngineM MemoryStore α) (e : ThemeEngine MemoryStore) : Prop :=
  ∃ failure, x e = (.error failure, e)

/-- Ask for a change, and fail if it was not done. -/
def request (asked : StateM MemoryStore (Answer (StoreResponse α))) (what : String) :
    EngineM MemoryStore α := do
  let response ← ask asked
  response.result what

theorem ask_bind_result (asked : StateM MemoryStore (Answer (StoreResponse α))) (what : String)
    (k : α → EngineM MemoryStore β) :
    (do
      let response ← ask asked
      let x ← response.result what
      k x) = request asked what >>= k := by
  simp only [request, bind_assoc]

/-- A requested change that the store does when it is online. -/
theorem run_request_ok (asked : StateM MemoryStore (Answer (StoreResponse α))) (what : String)
    {name : String} {f : MemoryStore → StoreResponse α × MemoryStore}
    (hasked : asked = MemoryStore.change name f) (online : e.store.offline = false) {x : α}
    (hok : (f e.store).1 = .ok x) :
    request asked what e = (.ok x, { e with store := (f e.store).2 }) := by
  simp [request, run_bind, hasked, MemoryStore.change, online, hok, StoreResponse.result,
    StoreResponse.ok]

/-- A requested change was refused, or it was done. -/
theorem run_request (asked : StateM MemoryStore (Answer (StoreResponse α))) (what : String)
    (e : ThemeEngine MemoryStore) {call : StoreCall} {name : String}
    {f : MemoryStore → StoreResponse α × MemoryStore} (done : ∀ s, MemoryStore.Done s call (f s))
    (hasked : asked = MemoryStore.change name f) :
    Refused (request asked what) e ∨
      ∃ x, (f e.store).1 = .ok x ∧ e.store.Change call (f e.store).2 ∧
        request asked what e = (.ok x, { e with store := (f e.store).2 }) := by
  cases hoff : e.store.offline with
  | true => exact .inl ⟨_, by simp [request, run_bind, hasked, MemoryStore.change, hoff]; rfl⟩
  | false =>
    rcases done e.store with ⟨r, hfail⟩ | ⟨x, hok, hchange⟩
    · exact .inl ⟨_, by
        simp [request, run_bind, hasked, MemoryStore.change, hoff, hfail, StoreResponse.result,
          StoreResponse.fail]
        rfl⟩
    · exact .inr ⟨x, hok, hchange, run_request_ok asked what hasked hoff hok⟩

theorem Refused.store_eq {x : EngineM MemoryStore α} (h : Refused x e) :
    (x e).2.store = e.store := by
  obtain ⟨failure, hrun⟩ := h
  rw [hrun]

theorem Refused.bind {x : EngineM MemoryStore α} (h : Refused x e)
    (k : α → EngineM MemoryStore β) : Refused (x >>= k) e := by
  obtain ⟨failure, hrun⟩ := h
  exact ⟨failure, bind_error hrun⟩

/-- Looking a theme up first only gives an operation another way to be refused. -/
theorem run_loadTheme_bind (id : String) (f : Theme → EngineM MemoryStore α)
    (e : ThemeEngine MemoryStore) :
    Refused (loadTheme id >>= f) e ∨
      ∃ t, e.store.themes.get? id = some t ∧ (loadTheme id >>= f) e = f t e := by
  cases online : e.store.offline with
  | true =>
    refine .inl (.bind ⟨MemoryStore.offlineFailure "get_theme", ?_⟩ f)
    rw [run_loadTheme, answered, if_pos online]
  | false =>
    cases found : e.store.themes.get? id with
    | none =>
      refine .inl (.bind ⟨.notFound .theme id, ?_⟩ f)
      simp [run_loadTheme, answered, online, MemoryStore.findTheme, found]
    | some t => exact .inr ⟨t, rfl, bind_ok (run_loadTheme_ok online found)⟩

/-! ## Assigning -/

theorem run_targetOf_theme (h : e.store.Integrity) (online : e.store.offline = false)
    {t : Theme} (found : e.store.themes.get? id = some t) :
    targetOf id false e =
      (.ok (.theme id, t.resolved, ⟨id, none, false⟩, .assigned), e) := by
  have hid := h.theme_id id t found
  simp [targetOf, run_bind, run_loadTheme_ok online found, hid]

theorem run_targetOf_variation (h : e.store.Integrity) (online : e.store.offline = false)
    {v : Variation} {parent : Theme} (found : e.store.variations.get? id = some v)
    (foundParent : e.store.themes.get? v.parentId = some parent) :
    targetOf id true e =
      (.ok (.variation id, v.resolved parent.category, ⟨v.parentId, some id, true⟩, .variation),
        e) := by
  have hid := h.variation_id id v found
  have hparent := h.theme_id v.parentId parent foundParent
  simp [targetOf, run_bind, run_map, Except.map, run_loadVariation_ok online found,
    run_loadTheme_ok online foundParent, hid, hparent]

/-- What an assignment is made to is what the store has under the key that it leads to. -/
theorem run_targetOf (h : e.store.Integrity) (id : String) (isVariation : Bool) :
    Refused (targetOf id isVariation) e ∨
      ∃ key t target state, targetOf id isVariation e = (.ok (key, t, target, state), e) ∧
        (∀ page, target.key page = .ok (key, state)) ∧ e.store.themeAt key = .ok t ∧
        ∀ id, target.Names id → e.store.hasId id = true := by
  cases online : e.store.offline with
  | true =>
    cases isVariation <;> exact .inl ⟨_, by
      simp [targetOf, run_bind, run_loadTheme, run_loadVariation, answered, online]
      rfl⟩
  | false =>
    cases isVariation with
    | false =>
      cases found : e.store.themes.get? id with
      | none =>
        exact .inl ⟨_, by
          simp [targetOf, run_bind, run_loadTheme, answered, online, MemoryStore.findTheme, found]
          rfl⟩
      | some t =>
        refine .inr ⟨_, _, _, _, run_targetOf_theme h online found, fun _ => rfl,
          MemoryStore.themeAt_theme_eq_ok_iff.2 ⟨t, found, rfl⟩, ?_⟩
        rintro _ (rfl | hnone)
        · exact MemoryStore.hasId_eq_true_iff.2 ⟨.theme id, rfl, t, found⟩
        · cases hnone
    | true =>
      cases found : e.store.variations.get? id with
      | none =>
        exact .inl ⟨_, by
          simp [targetOf, run_bind, run_loadVariation, answered, online,
            MemoryStore.findVariation, found]
          rfl⟩
      | some v =>
        obtain ⟨parent, foundParent⟩ := h.parent id v found
        refine .inr ⟨_, _, _, _, run_targetOf_variation h online found foundParent, fun _ => rfl,
          MemoryStore.themeAt_variation_eq_ok_iff.2 ⟨v, parent, found, foundParent, rfl⟩, ?_⟩
        rintro _ (rfl | hsome)
        · exact MemoryStore.hasId_eq_true_iff.2 ⟨.theme v.parentId, rfl, parent, foundParent⟩
        · cases hsome
          exact MemoryStore.hasId_eq_true_iff.2 ⟨.variation id, rfl, v, found⟩

/-- What an engine is once a page has been assigned. -/
def assigned (e : ThemeEngine MemoryStore) (page : String) (target : AssignmentTarget)
    (key : ThemeKey) (state : ResolutionState) (t : ResolvedTheme) : ThemeEngine MemoryStore :=
  { e with
    store := (e.store.assign page target).2
    cache := e.cache.bind page key t
    states := e.states.insert page state
    changes := e.changes ++ [.page page t] }

/-- **Assigning a page.** It is bound to what it was assigned to, and that is announced. -/
theorem run_applyTheme (h : e.store.Integrity) (page id : String) (isVariation : Bool) :
    Refused (applyTheme page id isVariation) e ∨
      ∃ key t target state, target.key page = .ok (key, state) ∧ e.store.themeAt key = .ok t ∧
        (∀ id, target.Names id → e.store.hasId id = true) ∧
        e.store.Change (.assign page target) (e.store.assign page target).2 ∧
        applyTheme page id isVariation e = (.ok t, e.assigned page target key state t) := by
  rcases run_targetOf h id isVariation with
    hrefused | ⟨key, t, target, state, htarget, leads, found, known⟩
  · exact .inl (hrefused.bind _)
  · rw [applyTheme, Refused, bind_ok htarget]
    simp only [ask_bind_result]
    rcases run_request (ThemeStore.assign page target) "assign page theme" e
        (fun s => s.assign_done page target) rfl with hrefused | ⟨a, -, stored, hrun⟩
    · exact .inl (hrefused.bind _)
    · exact .inr ⟨key, t, target, state, leads page, found, known, stored, bind_ok hrun⟩

/-! ## Removing an assignment -/

/-- What an engine is once the assignment of a page has been removed. -/
def unassigned (e : ThemeEngine MemoryStore) (page : String) : ThemeEngine MemoryStore :=
  { e with
    store := (e.store.deleteAssignment page).2
    cache := e.cache.unbind page
    states := e.states.erase page }

/-- Announce the theme of a page, if it has one. -/
def announceServed (page : String) :
    Except Failure ResolvedTheme × ThemeEngine MemoryStore →
      Except Failure ResolvedTheme × ThemeEngine MemoryStore
  | (.ok t, e) => (.ok t, { e with changes := e.changes ++ [.page page t] })
  | (.error failure, e) => (.error failure, e)

@[simp] theorem announceServed_fst (page : String)
    (served : Except Failure ResolvedTheme × ThemeEngine MemoryStore) :
    (announceServed page served).1 = served.1 := by
  obtain ⟨outcome, next⟩ := served
  cases outcome <;> rfl

/-- The same engine, but for what it has announced. -/
def withChanges (e : ThemeEngine MemoryStore) (changes : List ThemeChange) :
    ThemeEngine MemoryStore :=
  { e with changes }

theorem announceServed_snd (page : String)
    (served : Except Failure ResolvedTheme × ThemeEngine MemoryStore) :
    ∃ changes, (announceServed page served).2 = served.2.withChanges changes := by
  obtain ⟨outcome, next⟩ := served
  cases outcome <;> exact ⟨_, rfl⟩

theorem run_pageTheme_announce (page : String) (e : ThemeEngine MemoryStore) :
    (do
      let t ← pageTheme page
      announce (.page page t)
      return t : EngineM MemoryStore _) e = announceServed page (pageTheme page e) := by
  rw [run_bind]
  cases pageTheme page e with
  | mk outcome next => cases outcome <;> rfl

/-- **Removing an assignment.** What can fail is resolving the page without it. -/
theorem run_resetTheme (online : e.store.offline = false) (page : String) :
    resetTheme page e = announceServed page (pageTheme page (e.unassigned page)) := by
  have hrun := run_request_ok (ThemeStore.deleteAssignment page) "delete page assignment" rfl online
    (x := ()) rfl
  rw [resetTheme, ask_bind_result, bind_ok hrun]
  exact run_pageTheme_announce page (e.unassigned page)

theorem refused_resetTheme (offline : e.store.offline = true) (page : String) :
    Refused (resetTheme page) e := by
  rw [resetTheme, ask_bind_result]
  refine .bind ⟨MemoryStore.offlineFailure "delete_page_assignment", ?_⟩ _
  simp [request, run_bind, ThemeStore.deleteAssignment, MemoryStore.change, offline]

/-- **Resolving a page that has no assignment.** It fails when there is nothing else to serve. -/
theorem run_pageTheme_unassigned (h : e.store.Integrity) (online : e.store.offline = false)
    (unassigned : e.store.assignments.get? page = none) (unbound : e.cache.pageKey? page = none)
    (failure : Failure) :
    (pageTheme page e).1 = .error failure ↔
      e.store.defaultTheme? = none ∧ e.fallback = none ∧
        failure = .notFound .defaultTheme "is_default" := by
  have missed : e.cache.pageTheme? page = none := by simp [ThemeCache.pageTheme?, unbound]
  have hserved := served_pageTheme h page
  generalize (pageTheme page e).1 = outcome at hserved ⊢
  generalize (pageTheme page e).2 = next at hserved
  cases hd : e.store.defaultTheme? with
  | none =>
    have hresolution : e.resolution page = .error (.notFound .defaultTheme "is_default") := by
      simp [resolution, answered, online, MemoryStore.target, unassigned, MemoryStore.findDefault,
        hd]
    have hdefault : e.defaultResolution = .error (.notFound .defaultTheme "is_default") := by
      simp [defaultResolution, answered, online, MemoryStore.findDefault, hd]
    cases hserved with
    | cached found => rw [missed] at found; cases found
    | resolved _ resolves => rw [hresolution] at resolves; cases resolves
    | replaced _ _ _ found => rw [hdefault] at found; cases found
    | failed _ fails _ =>
      rw [hresolution] at fails
      cases fails
      cases hf : e.fallback <;> simp [lastResort, hf, eq_comm]
  | some t =>
    -- The default theme is there, in the cache or in the store.
    obtain ⟨r, hr⟩ : ∃ r, e.resolution page = .ok r := by
      have found := h.get?_defaultTheme hd
      cases hc : e.cache.get? (.theme t.id) <;>
        simp [resolution, answered, online, MemoryStore.target, unassigned, MemoryStore.findDefault,
          hd, themeAt, hc, MemoryStore.themeAt, MemoryStore.findTheme, found, pure, Except.pure]
    cases hserved with
    | cached | resolved | replaced => simp
    | failed _ fails _ => rw [hr] at fails; cases fails

/-! ## Creating -/

/-- A draft of a user is an ordinary theme. -/
theorem draft_ordinary {data : NewTheme} {draft : ThemeDraft} (h : data.draft = .ok draft) :
    draft.isDefault = false ∧ draft.isSystem = false := by
  unfold NewTheme.draft at h
  split at h
  · cases h
    exact ⟨rfl, rfl⟩
  · cases h

/-- A theme is not created, or the store creates it. -/
theorem run_createTheme (data : NewTheme) (e : ThemeEngine MemoryStore) :
    Refused (createTheme data) e ∨
      ∃ draft t, data.draft = .ok draft ∧ (e.store.createTheme draft).1 = .ok t ∧
        e.store.Change (.createTheme draft) (e.store.createTheme draft).2 ∧
        createTheme data e = (.ok t, { e with store := (e.store.createTheme draft).2 }) := by
  rw [createTheme, Refused, run_bind, run_lift]
  cases hdraft : data.draft with
  | error failure => exact .inl ⟨failure, rfl⟩
  | ok draft =>
    rcases run_request (ThemeStore.createTheme draft) "create theme" e
        (fun s => s.createTheme_done draft) rfl with hrefused | ⟨t, hok, stored, hrun⟩
    · exact .inl hrefused
    · exact .inr ⟨draft, t, rfl, hok, stored, hrun⟩

theorem run_createVariationFrom (parentId : String) (data : NewVariation) (now : Instant)
    (tries : Nat) (number : Int) (e : ThemeEngine MemoryStore) :
    Refused (createVariationFrom parentId data now tries number) e ∨
      ∃ draft v, (e.store.createVariation parentId draft).1 = .ok v ∧
        e.store.Change (.createVariation parentId draft)
          (e.store.createVariation parentId draft).2 ∧
        createVariationFrom parentId data now tries number e =
          (.ok v, { e with store := (e.store.createVariation parentId draft).2 }) := by
  induction tries generalizing number with
  | zero => exact .inl ⟨_, rfl⟩
  | succ tries ih =>
    rw [createVariationFrom, Refused, run_bind, run_ask]
    cases hoff : e.store.offline with
    | true => exact .inl ⟨_, by simp [ThemeStore.createVariation, MemoryStore.change, hoff]; rfl⟩
    | false =>
      rcases e.store.createVariation_done parentId (data.draft parentId now number) with
        ⟨r, hfail⟩ | ⟨v, hok, stored⟩
      · have hask : (ThemeStore.createVariation parentId (data.draft parentId now number) e.store) =
            (.ok (.fail r), e.store) := by
          simp [ThemeStore.createVariation, MemoryStore.change, hoff, hfail]
        rw [hask]
        cases r with
        | notFound | rejected => exact .inl ⟨_, rfl⟩
        | conflict message =>
          by_cases htries : tries = 0
          · exact .inl ⟨.conflict message, by
              simp [StoreResponse.result, StoreResponse.fail, htries]⟩
          · simpa [Refused, StoreResponse.result, StoreResponse.fail, htries] using
              ih (number + 1)
      · refine .inr ⟨_, v, hok, stored, ?_⟩
        simp [ThemeStore.createVariation, MemoryStore.change, hoff, hok, StoreResponse.result,
          StoreResponse.ok]

/-- A variation is not created, or the store creates it. -/
theorem run_createVariation (h : e.store.Integrity) (parentId : String) (data : NewVariation)
    (now : Instant) :
    Refused (createVariation parentId data now) e ∨
      ∃ draft v, (e.store.createVariation parentId draft).1 = .ok v ∧
        e.store.Change (.createVariation parentId draft)
          (e.store.createVariation parentId draft).2 ∧
        createVariation parentId data now e =
          (.ok v, { e with store := (e.store.createVariation parentId draft).2 }) := by
  unfold createVariation
  split
  · exact .inl ⟨_, rfl⟩
  · rcases run_loadTheme_bind parentId
        (fun parent => createVariationFrom parent.id data now variationTries now.millis) e with
      hrefused | ⟨parent, found, hrun⟩
    · exact .inl hrefused
    · have hfrom := run_createVariationFrom parentId data now variationTries now.millis e
      rw [h.theme_id parentId parent found] at hrun
      simpa only [Refused, pure_bind, hrun] using hfrom

/-! ## Changing and deleting -/

/-- A theme is not changed, or the store changes it and what came of it is dropped. -/
theorem run_updateTheme (id : String) (patch : ThemePatch) (e : ThemeEngine MemoryStore) :
    Refused (updateTheme id patch) e ∨
      ∃ t, e.store.Change (.updateTheme id patch) (e.store.updateTheme id patch).2 ∧
        updateTheme id patch e = (.ok t,
          (invalidateFamily id { e with store := (e.store.updateTheme id patch).2 }).2) := by
  unfold updateTheme
  simp only [ask_bind_result]
  rcases run_loadTheme_bind id _ e with hrefused | ⟨current, -, hrun⟩
  · exact .inl hrefused
  · rw [Refused, hrun]
    split
    · exact .inl ⟨_, rfl⟩
    · rcases run_request (ThemeStore.updateTheme id patch) "update theme" e
          (fun s => s.updateTheme_done id patch) rfl with hrefused | ⟨t, -, stored, hrun⟩
      · exact .inl (hrefused.bind _)
      · exact .inr ⟨t, stored, bind_ok hrun⟩

/-- A theme is not deleted, or the store deletes it and what came of it is dropped. -/
theorem run_deleteTheme (id : String) (e : ThemeEngine MemoryStore) :
    Refused (deleteTheme id) e ∨
      e.store.Change (.deleteTheme id) (e.store.deleteTheme id).2 ∧
        deleteTheme id e =
          (.ok (), (invalidateFamily id { e with store := (e.store.deleteTheme id).2 }).2) := by
  unfold deleteTheme
  simp only [ask_bind_result]
  rcases run_loadTheme_bind id _ e with hrefused | ⟨current, -, hrun⟩
  · exact .inl hrefused
  · rw [Refused, hrun]
    split
    · exact .inl ⟨_, rfl⟩
    · split
      · exact .inl ⟨_, rfl⟩
      · rcases run_request (ThemeStore.deleteTheme id) "delete theme" e
            (fun s => s.deleteTheme_done id) rfl with hrefused | ⟨_, -, stored, hrun⟩
        · exact .inl (hrefused.bind _)
        · exact .inr ⟨stored, bind_ok hrun⟩

/-- A theme is not made the default, or the store makes it so and the pages are unbound that had
the old one. -/
theorem run_setDefaultTheme (id : String) (e : ThemeEngine MemoryStore) :
    Refused (setDefaultTheme id) e ∨
      ∃ t, e.store.Change (.setDefaultTheme id) (e.store.setDefaultTheme id).2 ∧
        setDefaultTheme id e =
          (.ok t, (forgetDefaulted { e with store := (e.store.setDefaultTheme id).2 }).2) := by
  unfold setDefaultTheme
  simp only [ask_bind_result]
  rcases run_loadTheme_bind id _ e with hrefused | ⟨current, -, hrun⟩
  · exact .inl hrefused
  · rw [Refused, hrun]
    rcases run_request (ThemeStore.setDefaultTheme id) "set default theme" e
        (fun s => s.setDefaultTheme_done id) rfl with hrefused | ⟨t, -, stored, hrun⟩
    · exact .inl (hrefused.bind _)
    · exact .inr ⟨t, stored, bind_ok hrun⟩

end ThemedPages.ThemeEngine
