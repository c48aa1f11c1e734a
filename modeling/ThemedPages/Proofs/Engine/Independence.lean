import ThemedPages.Proofs.Engine.KnownPages

/-!
# Operations on different pages

All pages share the cached themes, and the refresh of a page unbinds others that have its theme. It
does not show: while the store is online, what an operation on a page gives is told by the store
(`MemoryStore.outcome`), and all that it leaves in the store is the row of this page
(`MemoryStore.rowAfter`). Neither depends on the rows of other pages.

**Theorem (`actions_commute`).** Two operations on different pages give the same in either order,
leave the same store, and whatever is done with pages after that gives the same.

The theorem is about two engines whose caches may differ. That they cannot be told apart is shown
along the later operations (`answers_eq`): both are coherent, and stay so over one and the same
store.
-/

namespace ThemedPages

/-! ## Rows -/

/-- The table with another row under a key, or with none. -/
def Table.setRow (t : Table α) (k : String) : Option α → Table α
  | some x => t.insert k x
  | none => t.erase k

theorem Table.get?_setRow (t : Table α) (k : String) (x? : Option α) (q : String) :
    (t.setRow k x?).get? q = if q = k then x? else t.get? q := by
  cases x? with
  | some x => exact Table.get?_insert t k x q
  | none => exact Table.get?_erase t k q

theorem Table.setRow_self (t : Table α) (k : String) : t.setRow k (t.get? k) = t := by
  apply Table.ext_get?
  intro q
  rw [Table.get?_setRow]
  by_cases hq : q = k
  · rw [if_pos hq, hq]
  · rw [if_neg hq]

/-- Rows under different keys are set in either order. -/
theorem Table.setRow_comm (t : Table α) {k k' : String} (apart : k ≠ k') (x? y? : Option α) :
    (t.setRow k x?).setRow k' y? = (t.setRow k' y?).setRow k x? := by
  apply Table.ext_get?
  intro q
  simp only [Table.get?_setRow]
  by_cases hq : q = k
  · have hq' : q ≠ k' := by rwa [hq]
    rw [if_neg hq', if_pos hq, if_pos hq]
  · rw [if_neg hq, if_neg hq]

/-! ## Operations by the store alone -/

/-- An operation on one page. -/
inductive PageAction
  | serve
  | assign (id : String) (isVariation : Bool)
  | unassign
  | refresh

namespace MemoryStore

/-- The store with another row for a page, or with none. -/
def withRow (s : MemoryStore) (page : String) (row? : Option Assignment) : MemoryStore :=
  { s with assignments := s.assignments.setRow page row? }

/-- What a page is to be assigned to, resolved. -/
def findTarget (s : MemoryStore) (id : String) (isVariation : Bool) :
    Except Failure (ThemeKey × ResolvedTheme × AssignmentTarget × ResolutionState) :=
  if isVariation then do
    let v ← s.findVariation id
    let parent ← s.findTheme v.parentId
    return (.variation v.id, v.resolved parent.category, ⟨parent.id, some v.id, true⟩, .variation)
  else do
    let t ← s.findTheme id
    return (.theme t.id, t.resolved, ⟨t.id, none, false⟩, .assigned)

/-- The row that a page has after an operation on it. -/
def rowAfter (s : MemoryStore) (page : String) : PageAction → Option Assignment
  | .serve | .refresh => s.assignments.get? page
  | .assign id isVariation =>
    match s.findTarget id isVariation with
    | .ok (_, _, target, _) => some ⟨page, target⟩
    | .error _ => s.assignments.get? page
  | .unassign => none

/-- The store after an operation on a page. -/
def afterAction (s : MemoryStore) (page : String) (action : PageAction) : MemoryStore :=
  s.withRow page (s.rowAfter page action)

/-- What an operation on a page gives. -/
def outcome (s : MemoryStore) (fallback : Option ResolvedTheme) (page : String) :
    PageAction → Except Failure ResolvedTheme
  | .serve | .refresh => s.themeOf fallback page
  | .assign id isVariation => (s.findTarget id isVariation).map fun found => found.2.1
  | .unassign => (s.withRow page none).themeOf fallback page

variable {s : MemoryStore} {p q : String}

/-- An operation that keeps the row of its page keeps the store. -/
theorem afterAction_eq_self {action : PageAction}
    (row : s.rowAfter p action = s.assignments.get? p) : s.afterAction p action = s := by
  simp only [afterAction, withRow, row, Table.setRow_self]

theorem withRow_comm (s : MemoryStore) (apart : p ≠ q) (row? row'? : Option Assignment) :
    (s.withRow p row?).withRow q row'? = (s.withRow q row'?).withRow p row? := by
  simp only [withRow, Table.setRow_comm s.assignments apart]

theorem get?_withRow (s : MemoryStore) (p : String) (row? : Option Assignment) (q : String) :
    (s.withRow p row?).assignments.get? q = if q = p then row? else s.assignments.get? q :=
  Table.get?_setRow _ _ _ _

/-- The row of another page tells nothing of what an operation makes of this one. -/
theorem rowAfter_withRow (s : MemoryStore) (apart : p ≠ q) (row? : Option Assignment)
    (action : PageAction) : (s.withRow p row?).rowAfter q action = s.rowAfter q action := by
  have hrow : (s.withRow p row?).assignments.get? q = s.assignments.get? q := by
    rw [get?_withRow, if_neg apart.symm]
  cases action with
  | serve | refresh => exact hrow
  | unassign => rfl
  | assign id isVariation =>
    have htarget : (s.withRow p row?).findTarget id isVariation = s.findTarget id isVariation := rfl
    simp only [rowAfter, htarget, hrow]

/-- **Stores do not show in which order different pages were changed.** -/
theorem afterAction_comm (s : MemoryStore) (apart : p ≠ q) (a b : PageAction) :
    (s.afterAction p a).afterAction q b = (s.afterAction q b).afterAction p a := by
  unfold afterAction
  rw [rowAfter_withRow s apart, rowAfter_withRow s apart.symm, withRow_comm s apart]

/-- **What an operation gives is told without the rows of other pages.** -/
theorem outcome_withRow (s : MemoryStore) (apart : p ≠ q) (row? : Option Assignment)
    (fallback : Option ResolvedTheme) (action : PageAction) :
    (s.withRow p row?).outcome fallback q action = s.outcome fallback q action := by
  cases action with
  | assign id isVariation => rfl
  | serve | refresh =>
    have hrow : (s.withRow p row?).assignments.get? q = s.assignments.get? q := by
      rw [get?_withRow, if_neg apart.symm]
    apply themeOf_of_tables
    · rfl
    · rfl
    · exact hrow
  | unassign =>
    apply themeOf_of_tables
    · rfl
    · rfl
    · simp only [get?_withRow, if_pos]

end MemoryStore

/-! ## Operations of the engine -/

namespace PageAction

/-- Do an operation on a page. -/
def run (page : String) : PageAction → EngineM MemoryStore ResolvedTheme
  | .serve => ThemeEngine.pageTheme page
  | .assign id isVariation => ThemeEngine.applyTheme page id isVariation
  | .unassign => ThemeEngine.resetTheme page
  | .refresh => ThemeEngine.refreshPage page

/-- The call that an operation on a page is. -/
def call (page : String) : PageAction → EngineCall
  | .serve => .pageTheme page
  | .assign id isVariation => .applyTheme page id isVariation
  | .unassign => .resetTheme page
  | .refresh => .refreshPage page

end PageAction

namespace ThemeEngine

variable {e e' : ThemeEngine MemoryStore} {p q page : String}

theorem perform_call (page : String) (action : PageAction) (e : ThemeEngine MemoryStore) :
    (perform (action.call page) e).2 = (action.run page e).2 := by
  cases action <;> exact congrArg Prod.snd (run_discard _ e)

theorem run_targetOf_online (online : e.store.offline = false) (id : String) (isVariation : Bool) :
    targetOf id isVariation e = (e.store.findTarget id isVariation, e) := by
  unfold targetOf MemoryStore.findTarget
  cases isVariation with
  | false =>
    cases ht : e.store.findTheme id <;> simp [run_bind, run_loadTheme, answered, online, ht]
  | true =>
    cases hv : e.store.findVariation id with
    | error failure => simp [run_bind, run_loadVariation, answered, online, hv]
    | ok v =>
      cases ht : e.store.findTheme v.parentId <;>
        simp [run_bind, run_map, Except.map, run_loadVariation, run_loadTheme, answered, online, hv,
          ht]

/-- The store takes what a page is to be assigned to. -/
theorem assign_findTarget {s : MemoryStore} {id : String} {isVariation : Bool} {key : ThemeKey}
    {t : ResolvedTheme} {target : AssignmentTarget} {state : ResolutionState}
    (found : s.findTarget id isVariation = .ok (key, t, target, state)) (page : String) :
    s.assign page target = (.ok ⟨page, target⟩, s.withRow page (some ⟨page, target⟩)) := by
  have complete : (target.isVariation && target.variationId.isNone) = false := by
    unfold MemoryStore.findTarget at found
    split at found
    · obtain ⟨v, -, found⟩ := Except.exists_of_bind found
      obtain ⟨parent, -, found⟩ := Except.exists_of_bind found
      cases found
      rfl
    · obtain ⟨u, -, found⟩ := Except.exists_of_bind found
      cases found
      rfl
  rw [MemoryStore.assign, complete]
  rfl

/-- **An assignment gives what it leads to**, and fails where that is not there. -/
theorem run_applyTheme_online (online : e.store.offline = false) (page id : String)
    (isVariation : Bool) :
    (applyTheme page id isVariation e).1 =
        e.store.outcome e.fallback page (.assign id isVariation) ∧
      (applyTheme page id isVariation e).2.store =
        e.store.afterAction page (.assign id isVariation) := by
  have htarget := run_targetOf_online online id isVariation
  cases found : e.store.findTarget id isVariation with
  | error failure =>
    have hrow : e.store.rowAfter page (.assign id isVariation) = e.store.assignments.get? page := by
      simp only [MemoryStore.rowAfter, found]
    rw [found] at htarget
    rw [applyTheme, bind_error htarget, MemoryStore.afterAction_eq_self hrow, MemoryStore.outcome,
      found]
    exact ⟨rfl, rfl⟩
  | ok r =>
    obtain ⟨key, t, target, state⟩ := r
    rw [found] at htarget
    have hassign := assign_findTarget found page
    have hrun := run_request_ok (ThemeStore.assign page target) "assign page theme" rfl online
      (congrArg Prod.fst hassign)
    rw [hassign] at hrun
    rw [applyTheme, bind_ok htarget]
    simp only [ask_bind_result]
    rw [bind_ok hrun, MemoryStore.afterAction, MemoryStore.rowAfter, MemoryStore.outcome, found]
    exact ⟨rfl, rfl⟩

/-- A page that is resolved by a coherent engine over an online store. -/
theorem Coherent.announceServed_pageTheme (h : e.Coherent) (online : e.store.offline = false)
    (page : String) :
    (announceServed page (ThemeEngine.pageTheme page e)).1 = e.store.themeOf e.fallback page ∧
      (announceServed page (ThemeEngine.pageTheme page e)).2.store = e.store := by
  obtain ⟨changes, hnext⟩ := announceServed_snd page (ThemeEngine.pageTheme page e)
  rw [announceServed_fst, hnext]
  exact ⟨h.pageTheme_fst online page,
    (isQuiet_pageTheme page e h.integrity).store_eq⟩

/-- **An operation gives what the store tells**, and leaves in it the row that the store tells. -/
theorem Coherent.run_action (h : e.Coherent) (online : e.store.offline = false) (page : String)
    (action : PageAction) :
    (action.run page e).1 = e.store.outcome e.fallback page action ∧
      (action.run page e).2.store = e.store.afterAction page action := by
  cases action with
  | assign id isVariation => exact run_applyTheme_online online page id isVariation
  | serve =>
    rw [MemoryStore.outcome, MemoryStore.afterAction_eq_self rfl]
    exact ⟨h.pageTheme_fst online page,
      (isQuiet_pageTheme page e h.integrity).store_eq⟩
  | refresh =>
    rw [MemoryStore.outcome, MemoryStore.afterAction_eq_self rfl, PageAction.run, run_refreshPage]
    exact Coherent.announceServed_pageTheme (e := e.withoutPage page) (h.dropped page) online page
  | unassign =>
    have hc : (e.unassigned page).Coherent := h.unassigned (.deleteAssignment page)
    rw [PageAction.run, run_resetTheme online]
    exact hc.announceServed_pageTheme online page

theorem Coherent.action (h : e.Coherent) (page : String) (action : PageAction) :
    (action.run page e).2.Coherent := by
  rw [← perform_call]
  exact h.perform (action.call page)

theorem fallback_action (h : e.store.Integrity) (page : String) (action : PageAction) :
    (action.run page e).2.fallback = e.fallback := by
  rw [← perform_call]
  exact fallback_perform h (action.call page)

/-! ## Engines that cannot be told apart -/

/-- What a sequence of operations on pages gives. -/
def answers : List (String × PageAction) → ThemeEngine MemoryStore →
    List (Except Failure ResolvedTheme)
  | [], _ => []
  | (page, action) :: later, e =>
    (action.run page e).1 :: answers later (action.run page e).2

/-- **What is cached does not show.** Two coherent engines over the same store give the same
answers. -/
theorem answers_eq (h : e.Coherent) (h' : e'.Coherent) (online : e.store.offline = false)
    (store : e'.store = e.store) (fallback : e'.fallback = e.fallback)
    (later : List (String × PageAction)) : answers later e' = answers later e := by
  induction later generalizing e e' with
  | nil => rfl
  | cons first later ih =>
    obtain ⟨page, action⟩ := first
    obtain ⟨hgives, hleaves⟩ := h.run_action online page action
    obtain ⟨hgives', hleaves'⟩ := h'.run_action (store ▸ online) page action
    have hstores : (action.run page e').2.store = (action.run page e).2.store := by
      rw [hleaves, hleaves', store]
    have hfallbacks : (action.run page e').2.fallback = (action.run page e).2.fallback := by
      rw [fallback_action h.integrity, fallback_action h'.integrity, fallback]
    have stays : (action.run page e).2.store.offline = false := by
      rw [hleaves]
      exact online
    rw [answers, answers, hgives, hgives', store, fallback]
    rw [ih (h.action page action) (h'.action page action) stays hstores hfallbacks]

/-! ## Two operations -/

/-- An operation on another page leaves what an operation on this one gives, and what it leaves. -/
theorem Coherent.run_action_after (h : e.Coherent) (online : e.store.offline = false)
    (apart : p ≠ q) (a b : PageAction) :
    (b.run q (a.run p e).2).1 = (b.run q e).1 ∧
      (b.run q (a.run p e).2).2.store = (e.store.afterAction p a).afterAction q b := by
  obtain ⟨-, hleaves⟩ := h.run_action online p a
  have stays : (a.run p e).2.store.offline = false := by
    rw [hleaves]
    exact online
  obtain ⟨hgives, hleaves'⟩ := (h.action p a).run_action stays q b
  rw [hleaves] at hgives hleaves'
  refine ⟨?_, hleaves'⟩
  rw [hgives, fallback_action h.integrity, (h.run_action online q b).1]
  exact e.store.outcome_withRow apart _ _ _

/-- **Operations on different pages commute.** The store may have been filled before by any
requests; from then on only the engine writes to it. -/
theorem actions_commute {snapshot : StoreSnapshot} {s : MemoryStore}
    (opened : MemoryStore.Opened snapshot s) (requests : List StoreCall)
    (fallback : Option ResolvedTheme) (calls : List EngineCall)
    (online :
      (runCalls calls { store := MemoryStore.runCalls requests s, fallback }).store.offline = false)
    (apart : p ≠ q) (a b : PageAction) (later : List (String × PageAction)) :
    let e := runCalls calls { store := MemoryStore.runCalls requests s, fallback }
    let pThenQ := b.run q (a.run p e).2
    let qThenP := a.run p (b.run q e).2
    pThenQ.1 = (b.run q e).1 ∧ qThenP.1 = (a.run p e).1 ∧
      pThenQ.2.store = qThenP.2.store ∧ answers later pThenQ.2 = answers later qThenP.2 := by
  intro e pThenQ qThenP
  have hs := (MemoryStore.integrity_opened opened).run requests
  have h : e.Coherent := (coherent_new hs fallback).run calls
  obtain ⟨hgives, hleaves⟩ := h.run_action_after online apart a b
  obtain ⟨hgives', hleaves'⟩ := h.run_action_after online apart.symm b a
  have hstores : pThenQ.2.store = qThenP.2.store := by
    rw [hleaves, hleaves', e.store.afterAction_comm apart]
  have hfallback : ∀ p q (a b : PageAction),
      (b.run q (a.run p e).2).2.fallback = e.fallback := by
    intro p q a b
    rw [fallback_action (h.action p a).integrity, fallback_action h.integrity]
  have stays : qThenP.2.store.offline = false := by
    rw [hleaves']
    exact online
  refine ⟨hgives, hgives', hstores, ?_⟩
  refine answers_eq ((h.action q b).action p a) ((h.action p a).action q b) stays hstores ?_ later
  rw [hfallback, hfallback]

/-- The refresh of a page unbinds another that has the same theme, and this one is assigned to a
theme that is not there. -/
theorem actions_commute_of_lightAndDark :
    ∃ s e, MemoryStore.ofSnapshot MemoryStore.lightAndDark = .ok s ∧
      e = runCalls [.pageTheme "about", .pageTheme "team"] { store := s } ∧
      (refreshPage "about" e).2.cache.pageKey? "team" = none ∧
      (applyTheme "team" "gone" false (refreshPage "about" e).2).1 =
        (applyTheme "team" "gone" false e).1 ∧
      (refreshPage "about" (applyTheme "team" "gone" false e).2).1 = (refreshPage "about" e).1 := by
  obtain ⟨s, hs⟩ : ∃ s, MemoryStore.ofSnapshot MemoryStore.lightAndDark = .ok s := ⟨_, rfl⟩
  have online : (runCalls [.pageTheme "about", .pageTheme "team"] { store := s }).store.offline =
      false := by
    cases hs
    decide
  have hcommute := actions_commute (.loaded hs) [] none [.pageTheme "about", .pageTheme "team"]
    online (p := "about") (q := "team") (by decide) .refresh (.assign "gone" false) []
  refine ⟨s, _, hs, rfl, ?_, hcommute.1, hcommute.2.1⟩
  cases hs
  decide

end ThemeEngine

end ThemedPages
