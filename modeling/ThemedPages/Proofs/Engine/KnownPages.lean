import ThemedPages.Proofs.Engine.PageRefresh

/-!
# Known pages

A full refresh resolves the pages that are known, those that have a state. A page gets one when it is
asked for. It loses it when another theme becomes the default and it had the old one; when a theme
is changed or deleted and the page is bound to nothing then, as is a page that another theme stands
in for; and when a full refresh finds the store offline.

**Theorem (`known_perform_iff`).** What a call makes of the known pages: `Asks` are the calls that
make a page known, and `Forgets` those after which it is not.

**Theorem (`refreshAll_resolves_iff`).** A full refresh that succeeds resolves a page iff the page was
asked for and no call since then has forgotten it.
-/

namespace ThemedPages.ThemeEngine

/-- A page has a state: it is not unresolved. -/
def Known (page : String) (e : ThemeEngine MemoryStore) : Prop := e.states.contains page = true

instance (page : String) (e : ThemeEngine MemoryStore) : Decidable (Known page e) :=
  inferInstanceAs (Decidable (e.states.contains page = true))

/-- A call does what it was made for. -/
def Succeeds (call : EngineCall) (e : ThemeEngine MemoryStore) : Prop := (perform call e).1 = .ok ()

/-- A call resolves a page, whether the page is known or not. -/
def Asks (page : String) (e : ThemeEngine MemoryStore) : EngineCall → Prop
  | .pageTheme q | .refreshPage q => q = page
  | .applyTheme q id isVariation => q = page ∧ Succeeds (.applyTheme q id isVariation) e
  | .resetTheme q => q = page ∧ e.store.offline = false
  -- The round comes to the page if nothing fails before.
  | .refreshRound pages order => ∃ before after, pages = before ++ page :: after ∧
      Succeeds (.refreshRound before order) e
  | _ => False

/-- A page is not known after a call that does not ask for it, even if it was known before. -/
def Forgets (page : String) (e : ThemeEngine MemoryStore) : EngineCall → Prop
  | .setDefaultTheme id =>
      Succeeds (.setDefaultTheme id) e ∧ e.states.get? page = some .byDefault
  | .updateTheme id patch =>
      Succeeds (.updateTheme id patch) e ∧ (e.cache.dropFamily id).pageKey? page = none
  | .deleteTheme id =>
      Succeeds (.deleteTheme id) e ∧ (e.cache.dropFamily id).pageKey? page = none
  | .refreshAll _ | .refreshRound _ _ => e.store.offline = true
  | _ => False

variable {e e' : ThemeEngine MemoryStore} {page id : String} {call : EngineCall}

/-! ## Serving -/

/-- **A page that is served is known.** If it is served from the cache, it has its state already. -/
theorem Coherent.known_pageTheme (h : e.Coherent) (page q : String) :
    Known q (pageTheme page e).2 ↔ q = page ∨ Known q e := by
  have hserved := served_pageTheme h.integrity page
  generalize (pageTheme page e).1 = outcome at hserved
  generalize (pageTheme page e).2 = next at hserved ⊢
  cases hserved with
  | @cached t found =>
    obtain ⟨key, hkey, -⟩ := e.cache.pageKey?_of_pageTheme? page t found
    obtain ⟨state, -, hstate, -⟩ := h.page page key hkey
    refine ⟨.inr, fun hknown => hknown.elim ?_ fun hknown => hknown⟩
    rintro rfl
    exact (Table.contains_iff _ _).2 ⟨state, hstate⟩
  | resolved | replaced | failed => exact Table.contains_insert_iff _ _ _ _

theorem known_announceServed (page q : String)
    (served : Except Failure ResolvedTheme × ThemeEngine MemoryStore) :
    Known q (announceServed page served).2 ↔ Known q served.2 := by
  obtain ⟨changes, hnext⟩ := announceServed_snd page served
  rw [hnext]
  exact Iff.rfl

/-- A page that is resolved again is known, and so are all others that were. -/
theorem known_of_erased {e₁ : ThemeEngine MemoryStore} (h : e₁.Coherent)
    (herased : e₁.states = e.states.erase page) (q : String) :
    Known q (pageTheme page e₁).2 ↔ q = page ∨ Known q e := by
  rw [h.known_pageTheme, Known, Known, herased, Table.contains_erase_iff]
  by_cases hq : q = page <;> simp [hq]

/-! ## Refreshing -/

theorem Coherent.pageTheme (h : e.Coherent) (page : String) :
    (ThemeEngine.pageTheme page e).2.Coherent :=
  h.served (served_pageTheme h.integrity page)

theorem Coherent.withChanges (h : e.Coherent) (changes : List ThemeChange) :
    (e.withChanges changes).Coherent := ⟨h.integrity, h.theme, h.page⟩

/-- What is announced of a page that had some properties and was resolved again. -/
def newsOf (page : String) (old? : Option Styles) : Except Failure ResolvedTheme → List ThemeChange
  | .ok t => if old? != some t.properties then [.page page t] else []
  | .error _ => []

/-- The failure of what has failed. -/
def failure? : Except Failure α → Option Failure
  | .ok _ => none
  | .error failure => some failure

/-- An engine that has resolved a page again, and announced it if there is news. -/
def renewed (page : String) (old? : Option Styles) (e : ThemeEngine MemoryStore) :
    ThemeEngine MemoryStore :=
  (ThemeEngine.pageTheme page e).2.withChanges
    ((ThemeEngine.pageTheme page e).2.changes ++ newsOf page old? (ThemeEngine.pageTheme page e).1)

/-- **Resolving pages again, one at a time.** -/
theorem run_resolveAll_cons (page : String) (old? : Option Styles)
    (pages : List (String × Option Styles)) (e : ThemeEngine MemoryStore) :
    resolveAll ((page, old?) :: pages) e =
      ((resolveAll pages (renewed page old? e)).1.map fun later? =>
          failure? (ThemeEngine.pageTheme page e).1 <|> later?,
        (resolveAll pages (renewed page old? e)).2) := by
  have hrest : ∀ (next : ThemeEngine MemoryStore) (first? : Option Failure),
      (do
        let later? ← resolveAll pages
        return first? <|> later? : EngineM MemoryStore (Option Failure)) next =
          ((resolveAll pages next).1.map fun later? => first? <|> later?,
            (resolveAll pages next).2) := by
    intro next first?
    rw [run_bind]
    cases resolveAll pages next with
    | mk later? last => cases later? <;> rfl
  rw [resolveAll, run_bind, run_observing, renewed]
  cases ThemeEngine.pageTheme page e with
  | mk outcome next =>
    cases outcome with
    | error failure =>
      simp only [newsOf, List.append_nil]
      exact hrest next (some failure)
    | ok t =>
      by_cases hold : (old? != some t.properties) = true
      · simp only [newsOf, hold, if_true]
        exact hrest (next.withChanges (next.changes ++ [.page page t])) none
      · simp only [newsOf, hold, Bool.false_eq_true, if_false, List.append_nil]
        exact hrest next none

theorem Coherent.renewed (h : e.Coherent) (page : String) (old? : Option Styles) :
    (renewed page old? e).Coherent :=
  (h.pageTheme page).withChanges _

theorem Coherent.known_resolveAll (h : e.Coherent) (pages : List (String × Option Styles))
    (q : String) :
    Known q (resolveAll pages e).2 ↔ q ∈ pages.map Prod.fst ∨ Known q e := by
  induction pages generalizing e with
  | nil => simp [resolveAll]
  | cons entry pages ih =>
    obtain ⟨page, old?⟩ := entry
    have hknown : Known q (ThemeEngine.renewed page old? e) ↔ q = page ∨ Known q e :=
      h.known_pageTheme page q
    rw [run_resolveAll_cons, ih (h.renewed page old?), hknown, List.map_cons, List.mem_cons]
    exact or_left_comm.trans or_assoc.symm

theorem run_refreshKnown_offline (offline : e.store.offline = true)
    (pages : List (String × Option Styles)) :
    refreshKnown pages e =
      (.error (MemoryStore.offlineFailure "list_themes"),
        { e with changes := e.changes ++ [.refreshed] }) := by
  simp [refreshKnown, run_bind, ThemeStore.listThemes, MemoryStore.read, offline]

/-- Once the themes are listed, the pages are resolved, and the first failure is given if there is
one. -/
theorem run_refreshKnown_online (online : e.store.offline = false)
    (pages : List (String × Option Styles)) :
    refreshKnown pages e =
      match resolveAll pages (e.withChanges (e.changes ++ [.refreshed])) with
      | (.ok none, next) => (.ok (e.store.listings .all), next)
      | (.ok (some failure), next) | (.error failure, next) => (.error failure, next) := by
  have hannounce : (announce .refreshed : EngineM MemoryStore Unit) e =
      (.ok (), e.withChanges (e.changes ++ [.refreshed])) := rfl
  have hlist : ask (ThemeStore.listThemes .all) (e.withChanges (e.changes ++ [.refreshed])) =
      (.ok (e.store.listings .all), e.withChanges (e.changes ++ [.refreshed])) := by
    simp [ThemeStore.listThemes, MemoryStore.read, withChanges, online]
  rw [refreshKnown, bind_ok hannounce, bind_ok hlist, run_bind]
  cases resolveAll pages (e.withChanges (e.changes ++ [.refreshed])) with
  | mk outcome next =>
    cases outcome with
    | error failure => rfl
    | ok failure? => cases failure? <;> rfl

theorem refreshKnown_fst (online : e.store.offline = false)
    {pages : List (String × Option Styles)} {failure? : Option Failure}
    (resolves : (resolveAll pages (e.withChanges (e.changes ++ [.refreshed]))).1 = .ok failure?) :
    (refreshKnown pages e).1 = failure?.elim (.ok (e.store.listings .all)) .error := by
  rw [run_refreshKnown_online online]
  cases hrun : resolveAll pages (e.withChanges (e.changes ++ [.refreshed])) with
  | mk outcome next =>
    rw [hrun] at resolves
    rw [show outcome = .ok failure? from resolves]
    cases failure? <;> rfl

theorem refreshKnown_snd (online : e.store.offline = false)
    (pages : List (String × Option Styles)) :
    (refreshKnown pages e).2 =
      (resolveAll pages (e.withChanges (e.changes ++ [.refreshed]))).2 := by
  rw [run_refreshKnown_online online]
  cases resolveAll pages (e.withChanges (e.changes ++ [.refreshed])) with
  | mk outcome next =>
    cases outcome with
    | error failure => rfl
    | ok failure? => cases failure? <;> rfl

/-- A full refresh that succeeds has asked the store. -/
theorem online_of_refreshAll {order : VisitOrder} {themes : List ThemeListing}
    (done : (refreshAll order e).1 = .ok themes) : e.store.offline = false := by
  by_contra hoff
  rw [run_refreshAll, run_refreshKnown_offline (e := e.cleared) (eq_true_of_ne_false hoff)] at done
  cases done

theorem mem_arrange_iff (order : VisitOrder) (q : String) :
    q ∈ order.arrange e.states.keys ↔ Known q e := by
  rw [(order.perm _).mem_iff, Table.mem_keys_iff, Known]

/-- **A full refresh knows the pages that it knew**, if the store can be asked. -/
theorem known_refreshAll (h : e.store.Integrity) (order : VisitOrder) (q : String) :
    Known q (refreshAll order e).2 ↔ e.store.offline = false ∧ Known q e := by
  rw [run_refreshAll]
  cases hoff : e.store.offline with
  | true =>
    rw [run_refreshKnown_offline (e := e.cleared) hoff]
    exact iff_of_false Bool.false_ne_true (by simp)
  | false =>
    have hc := (coherent_cleared h).withChanges (e.changes ++ [.refreshed])
    have hnone : ¬ Known q (e.cleared.withChanges (e.changes ++ [.refreshed])) := nofun
    rw [refreshKnown_snd (e := e.cleared) hoff]
    show Known q (resolveAll _ (e.cleared.withChanges (e.changes ++ [.refreshed]))).2 ↔ _
    rw [hc.known_resolveAll, map_fst_knownEntries, mem_arrange_iff, or_iff_left hnone]
    simp

/-- Ask for the themes of some pages, until one fails. -/
def askPages (pages : List String) : EngineM MemoryStore PUnit :=
  pages.forM fun page => discard (ThemeEngine.pageTheme page)

/-- Nothing is asked for after a page that fails. -/
theorem run_askPages_cons (page : String) (pages : List String) (e : ThemeEngine MemoryStore) :
    askPages (page :: pages) e = match ThemeEngine.pageTheme page e with
      | (.ok _, next) => askPages pages next
      | (.error failure, next) => (.error failure, next) := by
  show (discard (ThemeEngine.pageTheme page) >>= fun _ => askPages pages) e = _
  rw [run_bind, run_discard]
  cases ThemeEngine.pageTheme page e with
  | mk outcome next => cases outcome <;> rfl

theorem Coherent.known_askPages (h : e.Coherent) (pages : List String) (q : String) :
    Known q (askPages pages e).2 ↔
      (∃ before after, pages = before ++ q :: after ∧ (askPages before e).1 = .ok ⟨⟩) ∨
        Known q e := by
  induction pages generalizing e with
  | nil => simp [askPages]
  | cons page pages ih =>
    have hfirst := h.known_pageTheme page q
    have hnext := h.pageTheme page
    have hrun := fun rest => run_askPages_cons page rest e
    generalize ThemeEngine.pageTheme page e = served at hfirst hnext hrun
    obtain ⟨outcome, next⟩ := served
    rw [hrun]
    cases outcome with
    | error failure =>
      rw [hfirst]
      refine or_congr_left ⟨?_, ?_⟩
      · rintro rfl
        exact ⟨[], pages, rfl, rfl⟩
      · rintro ⟨before, after, hsplit, hok⟩
        cases before with
        | nil => exact (List.cons.inj hsplit).1.symm
        | cons p before =>
          rw [← (List.cons.inj hsplit).1, hrun] at hok
          cases hok
    | ok t =>
      rw [ih hnext, hfirst, ← or_assoc]
      refine or_congr_left ⟨?_, ?_⟩
      · rintro (⟨before, after, rfl, hok⟩ | rfl)
        · exact ⟨page :: before, after, rfl, by rw [hrun]; exact hok⟩
        · exact ⟨[], pages, rfl, rfl⟩
      · rintro ⟨before, after, hsplit, hok⟩
        cases before with
        | nil => exact .inr (List.cons.inj hsplit).1.symm
        | cons p before =>
          obtain ⟨rfl, hrest⟩ := List.cons.inj hsplit
          rw [hrun] at hok
          exact .inl ⟨before, after, hrest, hok⟩

/-! ## Calls -/

theorem Refused.discarded {x : EngineM MemoryStore α} (h : Refused x e) :
    Refused (Functor.discard x) e := by
  obtain ⟨failure, hrun⟩ := h
  exact ⟨failure, by rw [run_discard, hrun]; rfl⟩

/-- A call that is refused does not succeed. -/
theorem Refused.not_succeeds (h : Refused (perform call) e) : ¬ Succeeds call e := by
  obtain ⟨failure, hrun⟩ := h
  rw [Succeeds, hrun]
  exact nofun

theorem Refused.known_iff (h : Refused (perform call) e) (page : String) :
    Known page (perform call e).2 ↔ Known page e := by
  obtain ⟨failure, hrun⟩ := h
  rw [hrun]

theorem known_applyTheme (h : e.store.Integrity) (q id : String) (isVariation : Bool)
    (page : String) :
    Known page (perform (.applyTheme q id isVariation) e).2 ↔
      q = page ∧ Succeeds (.applyTheme q id isVariation) e ∨ Known page e := by
  rcases run_applyTheme h q id isVariation with hrefused | ⟨_, t, _, state, -, -, -, -, hrun⟩
  · have hrefused : Refused (perform (.applyTheme q id isVariation)) e := hrefused.discarded
    rw [hrefused.known_iff]
    exact (or_iff_right fun hdone => hrefused.not_succeeds hdone.2).symm
  · have hdone : Succeeds (.applyTheme q id isVariation) e := by
      rw [Succeeds, perform, run_discard, hrun]
      rfl
    rw [perform, run_discard, hrun]
    exact (Table.contains_insert_iff _ _ _ _).trans
      (or_congr_left (by rw [and_iff_left hdone, eq_comm]))

theorem known_resetTheme (h : e.Coherent) (q page : String) :
    Known page (perform (.resetTheme q) e).2 ↔
      q = page ∧ e.store.offline = false ∨ Known page e := by
  cases online : e.store.offline with
  | true =>
    have hrefused : Refused (perform (.resetTheme q)) e :=
      (refused_resetTheme online q).discarded
    rw [hrefused.known_iff]
    simp
  | false =>
    have hc : (e.unassigned q).Coherent := h.unassigned (.deleteAssignment q)
    rw [perform, run_discard, run_resetTheme online, known_announceServed,
      known_of_erased (e := e) hc rfl, eq_comm]
    simp

theorem known_refreshPage (h : e.Coherent) (q page : String) :
    Known page (perform (.refreshPage q) e).2 ↔ q = page ∨ Known page e := by
  have hc : (e.withoutPage q).Coherent := h.dropped q
  rw [perform, run_discard, run_refreshPage, known_announceServed,
    known_of_erased (e := e) hc rfl, eq_comm]

theorem known_refreshRound (h : e.store.Integrity) (pages : List String) (order : VisitOrder)
    (page : String) :
    Known page (perform (.refreshRound pages order) e).2 ↔
      (∃ before after, pages = before ++ page :: after ∧
        Succeeds (.refreshRound before order) e) ∨ e.store.offline = false ∧ Known page e := by
  have hknown := known_refreshAll h order page
  have hc := coherent_refreshAll h order
  have hbind : ∀ pages, perform (.refreshRound pages order) e =
      (refreshAll order >>= fun _ => askPages pages) e := fun _ => rfl
  simp only [Succeeds, hbind, run_bind]
  cases hrun : refreshAll order e with
  | mk outcome next =>
    rw [hrun] at hknown hc
    cases outcome with
    | error failure =>
      rw [← hknown]
      refine (or_iff_right ?_).symm
      rintro ⟨before, after, -, hok⟩
      cases hok
    | ok themes => exact (hc.known_askPages pages page).trans (by rw [hknown])

theorem known_invalidateFamily (id : String) (e : ThemeEngine MemoryStore) (page : String) :
    Known page (invalidateFamily id e).2 ↔
      Known page e ∧ (e.cache.dropFamily id).pageKey? page ≠ none := by
  show (e.states.filter fun page _ => ((e.cache.dropFamily id).pageKey? page).isSome).contains
    page = true ↔ _
  rw [Known, Table.contains, Table.contains, Table.get?_filter]
  cases e.states.get? page <;> cases (e.cache.dropFamily id).pageKey? page <;> simp

theorem known_forgetDefaulted (e : ThemeEngine MemoryStore) (page : String) :
    Known page (forgetDefaulted e).2 ↔ Known page e ∧ e.states.get? page ≠ some .byDefault := by
  show (e.states.filter fun page _ => !(e.states.get? page == some .byDefault)).contains
    page = true ↔ _
  rw [Known, Table.contains, Table.contains, Table.get?_filter]
  cases e.states.get? page <;> simp

/-- A call that is refused or leaves the states of the pages alone. -/
theorem known_of_states (h : Refused (perform call) e ∨ (perform call e).2.states = e.states)
    (page : String) : Known page (perform call e).2 ↔ Known page e := by
  rcases h with hrefused | hstates
  · exact hrefused.known_iff page
  · rw [Known, Known, hstates]

theorem known_createTheme (data : NewTheme) (e : ThemeEngine MemoryStore) (page : String) :
    Known page (perform (.createTheme data) e).2 ↔ Known page e := by
  refine known_of_states ?_ page
  rcases run_createTheme data e with hrefused | ⟨_, t, -, -, -, hrun⟩
  · exact .inl hrefused.discarded
  · exact .inr (by rw [perform, run_discard, hrun])

theorem known_createVariation (h : e.store.Integrity) (parentId : String) (data : NewVariation)
    (now : Instant) (page : String) :
    Known page (perform (.createVariation parentId data now) e).2 ↔ Known page e := by
  refine known_of_states ?_ page
  rcases run_createVariation h parentId data now with hrefused | ⟨_, v, -, -, hrun⟩
  · exact .inl hrefused.discarded
  · exact .inr (by rw [perform, run_discard, hrun])

/-- A call that forgets some of the pages if it succeeds, and does nothing otherwise. -/
theorem known_of_refused_or {Loses : Prop}
    (h : Refused (perform call) e ∨ Succeeds call e ∧
      (Known page (perform call e).2 ↔ Known page e ∧ ¬ Loses)) :
    Known page (perform call e).2 ↔ Known page e ∧ ¬ (Succeeds call e ∧ Loses) := by
  rcases h with hrefused | ⟨hdone, hknown⟩
  · rw [hrefused.known_iff, and_iff_left fun hdone => hrefused.not_succeeds hdone.1]
  · rw [hknown, and_iff_right hdone]

theorem known_updateTheme (id : String) (patch : ThemePatch) (e : ThemeEngine MemoryStore)
    (page : String) :
    Known page (perform (.updateTheme id patch) e).2 ↔
      Known page e ∧ ¬ Forgets page e (.updateTheme id patch) := by
  refine known_of_refused_or ?_
  rcases run_updateTheme id patch e with hrefused | ⟨t, -, hrun⟩
  · exact .inl hrefused.discarded
  · rw [Succeeds, perform, run_discard, hrun]
    exact .inr ⟨rfl, known_invalidateFamily id _ page⟩

theorem known_deleteTheme (id : String) (e : ThemeEngine MemoryStore) (page : String) :
    Known page (perform (.deleteTheme id) e).2 ↔
      Known page e ∧ ¬ Forgets page e (.deleteTheme id) := by
  refine known_of_refused_or ?_
  rcases run_deleteTheme id e with hrefused | ⟨-, hrun⟩
  · exact .inl hrefused
  · rw [Succeeds, perform, hrun]
    exact .inr ⟨rfl, known_invalidateFamily id _ page⟩

theorem known_setDefaultTheme (id : String) (e : ThemeEngine MemoryStore) (page : String) :
    Known page (perform (.setDefaultTheme id) e).2 ↔
      Known page e ∧ ¬ Forgets page e (.setDefaultTheme id) := by
  refine known_of_refused_or ?_
  rcases run_setDefaultTheme id e with hrefused | ⟨t, -, hrun⟩
  · exact .inl hrefused.discarded
  · rw [Succeeds, perform, run_discard, hrun]
    exact .inr ⟨rfl, known_forgetDefaulted _ page⟩

/-- **What a call makes of the known pages.** -/
theorem known_perform_iff (h : e.Coherent) (call : EngineCall) (page : String) :
    Known page (perform call e).2 ↔
      Asks page e call ∨ Known page e ∧ ¬ Forgets page e call := by
  have hs := h.integrity
  cases call with
  | pageTheme q =>
    rw [perform, run_discard, h.known_pageTheme q page, eq_comm]
    simp [Asks, Forgets]
  | applyTheme q id isVariation =>
    rw [known_applyTheme hs]
    simp [Asks, Forgets]
  | resetTheme q =>
    rw [known_resetTheme h]
    simp [Asks, Forgets]
  | refreshPage q =>
    rw [known_refreshPage h]
    simp [Asks, Forgets]
  | refreshAll order =>
    rw [perform, run_discard, known_refreshAll hs]
    simp [Asks, Forgets, and_comm]
  | refreshRound pages order =>
    rw [known_refreshRound hs]
    simp [Asks, Forgets, and_comm]
  | createTheme data =>
    rw [known_createTheme]
    simp [Asks, Forgets]
  | createVariation parentId data now =>
    rw [known_createVariation hs]
    simp [Asks, Forgets]
  | updateTheme id patch =>
    rw [known_updateTheme]
    simp [Asks]
  | deleteTheme id =>
    rw [known_deleteTheme]
    simp [Asks]
  | setDefaultTheme id =>
    rw [known_setDefaultTheme]
    simp [Asks]
  | listThemes filter =>
    rw [perform, run_discard]
    simp [Asks, Forgets, Known, listThemes]
  | listVariations filter =>
    rw [perform, run_discard]
    simp [Asks, Forgets, Known, listVariations]
  | setOffline offline =>
    simp only [Asks, Forgets, not_false_eq_true, and_true, false_or]
    exact Iff.rfl

/-! ## Runs -/

/-- No call of a run forgets a page. -/
def KeptBy (page : String) : List EngineCall → ThemeEngine MemoryStore → Prop
  | [], _ => True
  | call :: calls, e => ¬ Forgets page e call ∧ KeptBy page calls (perform call e).2

/-- A call of a run asks for a page, and none that comes after it forgets the page. -/
def Remembered (page : String) : List EngineCall → ThemeEngine MemoryStore → Prop
  | [], _ => False
  | call :: calls, e =>
    Asks page e call ∧ KeptBy page calls (perform call e).2 ∨
      Remembered page calls (perform call e).2

/-- **The known pages after a run.** -/
theorem known_runCalls_iff (h : e.Coherent) (calls : List EngineCall) (page : String) :
    Known page (runCalls calls e) ↔
      Remembered page calls e ∨ Known page e ∧ KeptBy page calls e := by
  induction calls generalizing e with
  | nil => simp [runCalls, Remembered, KeptBy]
  | cons call calls ih =>
    have hrest : Known page (runCalls (call :: calls) e) ↔
        Remembered page calls (perform call e).2 ∨
          Known page (perform call e).2 ∧ KeptBy page calls (perform call e).2 :=
      ih (h.perform call)
    -- What the first call asks for, the rest has to keep; so it is with what was known before.
    rw [hrest, known_perform_iff h call page, Remembered, KeptBy]
    tauto

/-- **What a full refresh resolves.** -/
theorem refreshAll_resolves_iff {snapshot : StoreSnapshot} {s : MemoryStore}
    (opened : MemoryStore.Opened snapshot s) (fallback : Option ResolvedTheme)
    (calls : List EngineCall) (order : VisitOrder) {themes : List ThemeListing}
    (done : (refreshAll order (runCalls calls { store := s, fallback })).1 = .ok themes)
    (page : String) :
    Known page (refreshAll order (runCalls calls { store := s, fallback })).2 ↔
      Remembered page calls { store := s, fallback } := by
  have h : Coherent { store := s, fallback } :=
    coherent_new (MemoryStore.integrity_opened opened) fallback
  have hrun := h.run calls
  rw [known_refreshAll hrun.integrity, and_iff_right (online_of_refreshAll done),
    known_runCalls_iff h]
  exact or_iff_left fun hknown => Bool.false_ne_true hknown.1

/-- A page without an assignment has the default theme, and another theme is changed. -/
theorem refreshAll_resolves_of_lightAndDark :
    ∃ s themes, MemoryStore.ofSnapshot MemoryStore.lightAndDark = .ok s ∧
      (refreshAll .byId (runCalls [.pageTheme "about", .updateTheme "dark" {}]
        { store := s })).1 = .ok themes ∧
      Known "about" (refreshAll .byId (runCalls [.pageTheme "about", .updateTheme "dark" {}]
        { store := s })).2 := by
  obtain ⟨s, hs⟩ : ∃ s, MemoryStore.ofSnapshot MemoryStore.lightAndDark = .ok s := ⟨_, rfl⟩
  have done : ∃ themes, (refreshAll .byId
      (runCalls [.pageTheme "about", .updateTheme "dark" {}] { store := s })).1 = .ok themes := by
    cases hs
    exact ⟨_, rfl⟩
  obtain ⟨themes, hdone⟩ := done
  refine ⟨s, themes, hs, hdone, (refreshAll_resolves_iff (.loaded hs) none _ .byId hdone _).2 ?_⟩
  refine .inl ⟨rfl, ?_, trivial⟩
  cases hs
  rintro ⟨-, hunbound⟩
  cases hunbound

/-- A page is asked for or assigned, and forgotten: its default theme is another now, its theme was
changed, or a full refresh failed. -/
def forgetfulRuns : List (List EngineCall) :=
  [[.pageTheme "about", .setDefaultTheme "dark"],
   [.applyTheme "about" "dark" false, .updateTheme "dark" {}],
   [.pageTheme "about", .setOffline true, .refreshAll .byId, .setOffline false]]

/-- **Full refreshes that succeed without a page that was asked for.** -/
theorem refreshAll_without_page :
    ∃ s, MemoryStore.ofSnapshot MemoryStore.lightAndDark = .ok s ∧
      ∀ calls ∈ forgetfulRuns,
        (∃ themes, (refreshAll .byId (runCalls calls { store := s })).1 = .ok themes) ∧
          (refreshAll .byId (runCalls calls { store := s })).2.states.get? "about" = none := by
  refine ⟨_, rfl, fun calls hcalls => ?_⟩
  obtain rfl | rfl | rfl : calls = _ ∨ calls = _ ∨ calls = _ := by
    simpa [forgetfulRuns] using hcalls
  all_goals exact ⟨⟨_, rfl⟩, rfl⟩

end ThemedPages.ThemeEngine
