import ThemedPages.Proofs.Engine.KnownPages
import ThemedPages.Proofs.Engine.Refusal
import ThemedPages.Proofs.Tables

/-!
# Rounds of a periodic refresh

A round refreshes everything and then asks for the pages that it was given. It ends at the first
failure: a known page that has no theme keeps it from all of its own pages, and one of these keeps it
from those after it. A full refresh is different, which goes on past a page that fails.

**Theorem (`refreshRound_state_iff`).** After a round, whatever was cached or noted before it, a page
has a state iff the round came to the page, and the state is what the store tells then.

That a state is up to date is an invariant of quiet steps (`Current`), which starts where everything
is dropped. Which pages the round comes to is told by the first failure of a list of pages
(`Coherent.resolveAll_fst`, `Coherent.askPages_ok_iff`).
-/

namespace ThemedPages

namespace MemoryStore

/-- A page has a theme, be it that of another page or the fallback. -/
def HasTheme (s : MemoryStore) (fallback : Option ResolvedTheme) (page : String) : Prop :=
  ∃ t, s.themeOf fallback page = .ok t

/-- The state of a page that is resolved: how it comes by its theme, if this is there. -/
def stateOf (s : MemoryStore) (page : String) : ResolutionState :=
  match s.target page, s.chosenTheme page with
  | .ok (_, state), .ok _ => state
  | _, _ => .failed

/-- The first failure among some pages. -/
def firstFailure (s : MemoryStore) (fallback : Option ResolvedTheme) (pages : List String) :
    Option Failure :=
  pages.findSome? fun page => ThemeEngine.failure? (s.themeOf fallback page)

variable {s : MemoryStore} {fallback : Option ResolvedTheme} {page : String}

theorem stateOf_of_found {key : ThemeKey} {state : ResolutionState} {t : ResolvedTheme}
    (leads : s.target page = .ok (key, state)) (found : s.themeAt key = .ok t) :
    s.stateOf page = state := by
  have hchosen : s.chosenTheme page = .ok t := by simp [chosenTheme, leads, found]
  simp only [stateOf, leads, hchosen]

theorem stateOf_of_missing {failure : Failure} (missing : s.chosenTheme page = .error failure) :
    s.stateOf page = .failed := by
  rw [stateOf, missing]
  cases s.target page <;> rfl

theorem failure?_eq_none_iff :
    ThemeEngine.failure? (s.themeOf fallback page) = none ↔ s.HasTheme fallback page := by
  unfold HasTheme
  cases s.themeOf fallback page <;> simp [ThemeEngine.failure?]

theorem firstFailure_eq_none_iff {pages : List String} :
    s.firstFailure fallback pages = none ↔ ∀ page ∈ pages, s.HasTheme fallback page := by
  simp only [firstFailure, List.findSome?_eq_none_iff, failure?_eq_none_iff]

theorem firstFailure_cons (s : MemoryStore) (fallback : Option ResolvedTheme) (page : String)
    (pages : List String) :
    s.firstFailure fallback (page :: pages) =
      (ThemeEngine.failure? (s.themeOf fallback page) <|> s.firstFailure fallback pages) := by
  simp only [firstFailure, List.findSome?_cons]
  cases ThemeEngine.failure? (s.themeOf fallback page) <;> rfl

end MemoryStore

namespace ThemeEngine

variable {e e' : ThemeEngine MemoryStore} {page : String}

/-! ## States that are up to date -/

/-- The store can be asked, and every state is what it tells now. -/
structure Current (e : ThemeEngine MemoryStore) : Prop where
  coherent : e.Coherent
  online : e.store.offline = false
  state : ∀ page state, e.states.get? page = some state → state = e.store.stateOf page

theorem Current.served {outcome : Except Failure ResolvedTheme} (h : e.Current)
    (serves : Served e page outcome e') : e'.Current := by
  refine ⟨h.coherent.served serves, ?_, ?_⟩
  · cases serves <;> exact h.online
  · cases serves with
    | cached found => exact h.state
    | resolved missed resolves =>
      obtain ⟨-, leads, found⟩ := resolution_eq_ok resolves
      rw [h.coherent.themeAt_eq] at found
      exact Table.forall_insert h.state (MemoryStore.stateOf_of_found leads found).symm
    | replaced missed fails | failed missed fails =>
      exact Table.forall_insert h.state
        (MemoryStore.stateOf_of_missing (resolution_eq_error h.online fails)).symm

theorem Current.quiet (h : e.Current) (hq : Quiet e e') : e'.Current := by
  have hc := h.coherent.quiet hq
  cases hq with
  | served serves => exact h.served serves
  | announced => exact ⟨hc, h.online, h.state⟩
  | dropped page => exact ⟨hc, h.online, Table.forall_erase h.state page⟩
  | cleared => exact ⟨hc, h.online, nofun⟩

theorem current_cleared (h : e.store.Integrity) (online : e.store.offline = false) :
    e.cleared.Current :=
  ⟨coherent_cleared h, online, nofun⟩

theorem isQuiet_askPages (pages : List String) : IsQuiet (askPages pages) :=
  Moves.forM (R := QuietlyTo) (fun _ _ => .refl) QuietlyTo.trans
    (fun page => (isQuiet_pageTheme page).discard) pages

/-- **After a round, every state is up to date.** It starts with none at all. -/
theorem current_refreshRound (h : e.store.Integrity) (online : e.store.offline = false)
    (pages : List String) (order : VisitOrder) : (refreshRound pages order e).2.Current := by
  have hquiet :=
    (isQuiet_refreshKnown (knownEntries order e)).bind (fun _ => isQuiet_askPages pages) e.cleared h
  exact hquiet.induction Current.quiet (current_cleared h online)

/-! ## What fails -/

/-- Asking for a page leaves alone what decides on the themes of pages. -/
theorem frame_pageTheme (h : e.store.Integrity) (page : String) :
    (ThemeEngine.pageTheme page e).2.store = e.store ∧
      (ThemeEngine.pageTheme page e).2.fallback = e.fallback :=
  ⟨(isQuiet_pageTheme page e h).store_eq, (isQuiet_pageTheme page e h).fallback_eq⟩

theorem frame_renewed (h : e.store.Integrity) (page : String) (old? : Option Styles) :
    (renewed page old? e).store = e.store ∧ (renewed page old? e).fallback = e.fallback :=
  frame_pageTheme h page

/-- **Resolving pages again tells the first failure**, and comes to them all. -/
theorem Coherent.resolveAll_fst (h : e.Coherent) (online : e.store.offline = false)
    (pages : List (String × Option Styles)) :
    (resolveAll pages e).1 = .ok (e.store.firstFailure e.fallback (pages.map Prod.fst)) := by
  induction pages generalizing e with
  | nil => rfl
  | cons entry pages ih =>
    obtain ⟨page, old?⟩ := entry
    obtain ⟨hstore, hfallback⟩ := frame_renewed h.integrity page old?
    have stays : (ThemeEngine.renewed page old? e).store.offline = false := by rwa [hstore]
    rw [run_resolveAll_cons, ih (h.renewed page old?) stays, hstore, hfallback,
      h.pageTheme_fst online, List.map_cons, MemoryStore.firstFailure_cons]
    rfl

/-- **What a full refresh gives.** -/
theorem refreshAll_fst (h : e.store.Integrity) (online : e.store.offline = false)
    (order : VisitOrder) :
    (refreshAll order e).1 =
      (e.store.firstFailure e.fallback (order.arrange e.states.keys)).elim
        (.ok (e.store.listings .all)) .error := by
  have hc := (coherent_cleared h).withChanges (e.changes ++ [.refreshed])
  have hresolve := hc.resolveAll_fst online (knownEntries order e)
  rw [map_fst_knownEntries] at hresolve
  rw [run_refreshAll, refreshKnown_fst (e := e.cleared) online hresolve]
  rfl

theorem exists_refreshAll_eq_ok_iff (h : e.store.Integrity) (online : e.store.offline = false)
    (order : VisitOrder) :
    (∃ themes, (refreshAll order e).1 = .ok themes) ↔
      ∀ page, Known page e → e.store.HasTheme e.fallback page := by
  have hpages : (∀ page, Known page e → e.store.HasTheme e.fallback page) ↔
      e.store.firstFailure e.fallback (order.arrange e.states.keys) = none := by
    rw [MemoryStore.firstFailure_eq_none_iff]
    simp only [mem_arrange_iff]
  rw [hpages, refreshAll_fst h online]
  cases e.store.firstFailure e.fallback (order.arrange e.states.keys) <;> simp

/-- **Asking for pages succeeds if each has a theme.** -/
theorem Coherent.askPages_ok_iff (h : e.Coherent) (online : e.store.offline = false)
    (pages : List String) :
    (askPages pages e).1 = .ok ⟨⟩ ↔ ∀ page ∈ pages, e.store.HasTheme e.fallback page := by
  induction pages generalizing e with
  | nil => simp [askPages]
  | cons page pages ih =>
    have hgives := h.pageTheme_fst online page
    obtain ⟨hstore, hfallback⟩ := frame_pageTheme h.integrity page
    have hnext := h.pageTheme page
    rw [run_askPages_cons]
    generalize ThemeEngine.pageTheme page e = served at hgives hstore hfallback hnext ⊢
    obtain ⟨outcome, next⟩ := served
    dsimp only at hgives hstore hfallback hnext
    cases outcome with
    | error failure =>
      have hfails : ¬ e.store.HasTheme e.fallback page := by
        rintro ⟨t, ht⟩
        rw [ht] at hgives
        cases hgives
      constructor
      · intro hok
        cases hok
      · intro hall
        exact absurd (hall page List.mem_cons_self) hfails
    | ok t =>
      have stays : next.store.offline = false := by rwa [hstore]
      show (askPages pages next).1 = .ok ⟨⟩ ↔ _
      rw [ih hnext stays, hstore, hfallback, List.forall_mem_cons]
      exact (and_iff_right ⟨t, hgives.symm⟩).symm

/-! ## Rounds -/

theorem succeeds_refreshRound_iff (h : e.store.Integrity) (online : e.store.offline = false)
    (pages : List String) (order : VisitOrder) :
    Succeeds (.refreshRound pages order) e ↔
      (∀ page, Known page e → e.store.HasTheme e.fallback page) ∧
        ∀ page ∈ pages, e.store.HasTheme e.fallback page := by
  have hknown := exists_refreshAll_eq_ok_iff h online order
  have hc := coherent_refreshAll h order
  have hquiet := isQuiet_refreshAll order e h
  have hstore := hquiet.store_eq
  have hfallback := hquiet.fallback_eq
  show ((refreshAll order >>= fun _ => askPages pages) e).1 = .ok ⟨⟩ ↔ _
  rw [run_bind, ← hknown]
  generalize refreshAll order e = refreshed at hc hstore hfallback ⊢
  obtain ⟨outcome, next⟩ := refreshed
  dsimp only at hc hstore hfallback
  cases outcome with
  | error failure => simp
  | ok themes =>
    have stays : next.store.offline = false := by rwa [hstore]
    show (askPages pages next).1 = .ok ⟨⟩ ↔ _
    rw [hc.askPages_ok_iff stays, hstore, hfallback]
    simp

/-- A round comes to a page: it is known, or it is one of the given pages, and no known page and none
that is given before it is without a theme. -/
def ComesTo (page : String) (pages : List String) (e : ThemeEngine MemoryStore) : Prop :=
  Known page e ∨
    (∀ q, Known q e → e.store.HasTheme e.fallback q) ∧
      ∃ before after, pages = before ++ page :: after ∧
        ∀ q ∈ before, e.store.HasTheme e.fallback q

theorem known_refreshRound_iff (h : e.store.Integrity) (online : e.store.offline = false)
    (pages : List String) (order : VisitOrder) (page : String) :
    Known page (refreshRound pages order e).2 ↔ ComesTo page pages e := by
  have hknown := known_refreshRound h pages order page
  simp only [succeeds_refreshRound_iff h online, online, true_and] at hknown
  refine hknown.trans (or_comm.trans (or_congr_right ?_))
  constructor
  · rintro ⟨before, after, hsplit, hall, hbefore⟩
    exact ⟨hall, before, after, hsplit, hbefore⟩
  · rintro ⟨hall, before, after, hsplit, hbefore⟩
    exact ⟨before, after, hsplit, hall, hbefore⟩

/-- **What a round makes of a page.** The store is any that requests can lead to, and the rest of the
engine is arbitrary. -/
theorem refreshRound_state_iff {snapshot : StoreSnapshot} {s : MemoryStore}
    (opened : MemoryStore.Opened snapshot s) (requests : List StoreCall)
    (store : e.store = MemoryStore.runCalls requests s) (online : e.store.offline = false)
    (pages : List String) (order : VisitOrder) (page : String) (state : ResolutionState) :
    (refreshRound pages order e).2.states.get? page = some state ↔
      ComesTo page pages e ∧ state = e.store.stateOf page := by
  have h : e.store.Integrity := store ▸ (MemoryStore.integrity_opened opened).run requests
  have hknown := known_refreshRound_iff h online pages order page
  have hcurrent := current_refreshRound h online pages order
  have hstore : (refreshRound pages order e).2.store = e.store :=
    (isQuiet_refreshRound pages order e h).store_eq
  rw [← hknown, Known, Table.contains_iff]
  constructor
  · intro hstate
    refine ⟨⟨state, hstate⟩, ?_⟩
    rw [hcurrent.state page state hstate, hstore]
  · rintro ⟨⟨state', hstate'⟩, rfl⟩
    rw [hstate', hcurrent.state page state' hstate', hstore]

/-- A page that is given has no theme: it is resolved all the same. -/
theorem refreshRound_of_emptyStore :
    (refreshRound ["about", "team"] .byId { store := ({} : MemoryStore) }).2.states.get? "about" =
      some .failed :=
  (refreshRound_state_iff .new [] rfl rfl _ _ _ _).2
    ⟨.inr ⟨nofun, [], ["team"], rfl, nofun⟩, rfl⟩

/-- A page is assigned to a theme that is changed after that, and another page has no theme. -/
def themelessBeside : List EngineCall :=
  soleThemeAssigned ++ [.updateTheme "theme-1" {}, .pageTheme "about"]

/-- **Pages that a round never comes to.** A page before them in the list has no theme; or a known
page has none, which is not in the list. -/
theorem starved_pages :
    (∃ e, e = ({ store := {} } : ThemeEngine MemoryStore) ∧
      (refreshRound ["about", "team"] .byId e).1 =
        .error (.notFound .defaultTheme "is_default") ∧
      (refreshRound ["about", "team"] .byId e).2.states.get? "team" = none) ∧
    ∃ e, e = runCalls themelessBeside { store := {} } ∧
      e.store.stateOf "home" = .assigned ∧
      (refreshRound ["home"] .byId e).1 = .error (.notFound .defaultTheme "is_default") ∧
      (refreshRound ["home"] .byId e).2.states.get? "home" = none :=
  ⟨⟨_, rfl, rfl, rfl⟩, _, rfl, rfl, rfl, rfl⟩

end ThemeEngine

end ThemedPages
