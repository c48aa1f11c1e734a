import ThemedPages.Proofs.Engine.Announcing
import ThemedPages.Proofs.Engine.RefreshRounds
import ThemedPages.Proofs.Engine.Serving
import ThemedPages.Proofs.Tables

/-!
# What a full refresh announces

A full refresh announces the pages whose theme has changed. What a page had before is not kept
anywhere: it is taken to be what the caches have for the page, and its properties are compared with
those of the theme that the page has now.

**Theorem (`refreshAll_news_iff`).** Whatever calls were made, and whatever others wrote to the store
in between, a page is announced at most once, with the theme that it has now. It is announced just
when this is not the theme that the page was given last, unless the page is `Misjudged`: nothing is
cached for it; or the cached theme differs from the one that the page has now in something other than
its properties; or the cached theme is not the one that the page was given.

What a page was given last is a matter of history: `Watched` is an engine beside all that its calls
have given to pages. The invariant is `Faithful`: the theme that is cached for a page is the one that
it was given last, or one that another page was assigned to. Every step but such an assignment keeps
the cached themes of other pages or drops them (`ThemeCache.Loses`).
-/

namespace ThemedPages

/-! ## History -/

/-- A call has given a theme to a page. -/
structure Giving where
  call : EngineCall
  page : String
  theme : ResolvedTheme

/-- What may happen to an engine: a call, or a request that someone else sends to its store. -/
inductive Happening
  | call (call : EngineCall)
  | edit (edit : StoreCall)

/-- An engine, and what its calls have given to pages, the last one first. -/
structure Watched where
  engine : ThemeEngine MemoryStore
  given : List Giving := []

namespace ThemeEngine

/-- The theme that a page was given last. -/
def lastGiven (page : String) (given : List Giving) : Option ResolvedTheme :=
  (given.find? fun g => g.page == page).map Giving.theme

/-- The theme was given to another page, by an assignment of that page. -/
def GivenElsewhere (page : String) (t : ResolvedTheme) (given : List Giving) : Prop :=
  ∃ g ∈ given, g.page ≠ page ∧ g.theme = t ∧
    ∃ id isVariation, g.call = .applyTheme g.page id isVariation

/-- Note what a call has given to a page, if it has. -/
def noted (call : EngineCall) (page : String) (given : List Giving) :
    Except Failure ResolvedTheme → List Giving
  | .ok t => ⟨call, page, t⟩ :: given
  | .error _ => given

/-- Note what pages are given that are resolved again. -/
def notedEach (call : EngineCall) :
    List (String × Option Styles) → ThemeEngine MemoryStore → List Giving → List Giving
  | [], _, given => given
  | (page, old?) :: pages, e, given =>
    notedEach call pages (renewed page old? e) (noted call page given (pageTheme page e).1)

/-- Note what pages are given that are asked for, until one fails. -/
def notedUntil (call : EngineCall) :
    List String → ThemeEngine MemoryStore → List Giving → List Giving
  | [], _, given => given
  | page :: pages, e, given =>
    match pageTheme page e with
    | (.ok t, next) => notedUntil call pages next (⟨call, page, t⟩ :: given)
    | (.error _, _) => given

/-- Note what a full refresh gives, which is nothing if the themes cannot be listed. -/
def notedAll (call : EngineCall) (order : VisitOrder) (e : ThemeEngine MemoryStore)
    (given : List Giving) : List Giving :=
  if e.store.offline then given
  else notedEach call (knownEntries order e)
    (e.cleared.withChanges (e.changes ++ [.refreshed])) given

/-- Note what a call gives. -/
def givenBy (call : EngineCall) (e : ThemeEngine MemoryStore) (given : List Giving) :
    List Giving :=
  match call with
  | .pageTheme page => noted call page given (pageTheme page e).1
  | .applyTheme page id isVariation => noted call page given (applyTheme page id isVariation e).1
  | .resetTheme page => noted call page given (resetTheme page e).1
  | .refreshPage page => noted call page given (refreshPage page e).1
  | .refreshAll order => notedAll call order e given
  | .refreshRound pages order =>
    match refreshAll order e with
    | (.ok _, next) => notedUntil call pages next (notedAll call order e given)
    | (.error _, _) => notedAll call order e given
  | _ => given

end ThemeEngine

namespace Watched

/-- What is watched after something has happened. -/
def after (w : Watched) : Happening → Watched
  | .call call => ⟨(ThemeEngine.perform call w.engine).2, ThemeEngine.givenBy call w.engine w.given⟩
  | .edit edit =>
    ⟨{ w.engine with store := (MemoryStore.perform edit w.engine.store).2 }, w.given⟩

/-- What is watched after some things have happened. -/
def run (happenings : List Happening) (w : Watched) : Watched := happenings.foldl after w

end Watched

/-! ## Caches that lose themes -/

namespace ThemeCache

/-- A page that is bound in the second cache is bound to the same theme in the first. -/
def Loses (c c' : ThemeCache) : Prop :=
  ∀ page key, c'.pageKey? page = some key →
    c.pageKey? page = some key ∧ c'.get? key = c.get? key

variable {c c' c'' : ThemeCache} {page : String} {t : ResolvedTheme}

theorem Loses.trans (h : Loses c c') (h' : Loses c' c'') : Loses c c'' := by
  intro page key hkey
  obtain ⟨hkey', hget'⟩ := h' page key hkey
  obtain ⟨hkey, hget⟩ := h page key hkey'
  exact ⟨hkey, hget'.trans hget⟩

theorem Loses.pageTheme? (h : Loses c c') (found : c'.pageTheme? page = some t) :
    c.pageTheme? page = some t := by
  obtain ⟨key, hkey, ht⟩ := c'.pageKey?_of_pageTheme? page t found
  obtain ⟨hkey, hget⟩ := h page key hkey
  rw [ThemeCache.pageTheme?, hkey, Option.bind_some, ← hget, ht]

theorem loses_refl (c : ThemeCache) : Loses c c := by
  intro page key hkey
  exact ⟨hkey, rfl⟩

theorem loses_unbind (c : ThemeCache) (page : String) : Loses c (c.unbind page) := by
  intro q key hkey
  rw [pageKey?_unbind] at hkey
  by_cases hq : q = page
  · rw [if_pos hq] at hkey
    cases hkey
  · rw [if_neg hq] at hkey
    exact ⟨hkey, get?_unbind c key page⟩

theorem loses_dropAll (c : ThemeCache) (keys : List ThemeKey) : Loses c (keys.foldl drop c) := by
  intro page key hkey
  rw [pageKey?_dropAll, Option.filter_eq_some_iff] at hkey
  obtain ⟨hkey, hkept⟩ := hkey
  have hnot : key ∉ keys := by simpa using hkept
  rw [get?_dropAll, if_neg hnot]
  exact ⟨hkey, rfl⟩

theorem loses_dropPage (c : ThemeCache) (page : String) :
    Loses c (ThemeEngine.dropPage c page) := by
  unfold ThemeEngine.dropPage
  cases c.pageKey? page with
  | none => exact loses_unbind c page
  | some key => exact (loses_dropAll c [key]).trans (loses_unbind _ page)

theorem loses_clear (c : ThemeCache) : Loses c c.clear := by
  intro page key hkey
  cases hkey

theorem loses_filter_pages (c : ThemeCache) (keep : String → ThemeKey → Bool) :
    Loses c { c with pages := c.pages.filter keep } := by
  intro page key hkey
  have hfilter : (c.pages.filter keep).get? page = some key := hkey
  rw [Table.get?_filter, Option.filter_eq_some_iff] at hfilter
  refine ⟨hfilter.1, ?_⟩
  cases key <;> rfl

end ThemeCache

namespace ThemeEngine

variable {e e' next : ThemeEngine MemoryStore} {page q : String} {t : ResolvedTheme}
  {given : List Giving} {call : EngineCall} {outcome : Except Failure ResolvedTheme}

/-! ## What was given -/

theorem lastGiven_cons (g : Giving) (given : List Giving) (page : String) :
    lastGiven page (g :: given) = if g.page = page then some g.theme else lastGiven page given := by
  unfold lastGiven
  by_cases hpage : g.page = page
  · simp [hpage]
  · simp [hpage]

theorem GivenElsewhere.cons (h : GivenElsewhere page t given) (g : Giving) :
    GivenElsewhere page t (g :: given) := by
  obtain ⟨g', hmem, hg'⟩ := h
  exact ⟨g', List.mem_cons_of_mem g hmem, hg'⟩

/-! ## The invariant -/

/-- The theme that is cached for a page is what the page was given last, or what another page was
assigned to. -/
structure Faithful (e : ThemeEngine MemoryStore) (given : List Giving) : Prop where
  integrity : e.store.Integrity
  /-- A page is bound to a key under which there is a theme. -/
  backed : ∀ page key, e.cache.pageKey? page = some key → ∃ t, e.cache.get? key = some t
  cached : ∀ page t, e.cache.pageTheme? page = some t →
    lastGiven page given = some t ∨ GivenElsewhere page t given

/-- To lose bindings does no harm, whatever happens to the store. -/
theorem Faithful.loses (h : Faithful e given) (hs : e'.store.Integrity)
    (hcache : e.cache.Loses e'.cache) : Faithful e' given := by
  refine ⟨hs, ?_, ?_⟩
  · intro page key hkey
    obtain ⟨hkey, hget⟩ := hcache page key hkey
    rw [hget]
    exact h.backed page key hkey
  · intro page t ht
    exact h.cached page t (hcache.pageTheme? ht)

theorem Faithful.withChanges (h : Faithful e given) (changes : List ThemeChange) :
    Faithful (e.withChanges changes) given := ⟨h.integrity, h.backed, h.cached⟩

/-! ## Serving -/

/-- Serving a page keeps what is cached under a key. -/
theorem Served.get?_of_cached (serves : Served e page outcome next) {key : ThemeKey}
    (found : e.cache.get? key = some t) : next.cache.get? key = some t := by
  have hsees : ∀ u, e.themeAt key = .ok u → u = t := by
    intro u hu
    rw [ThemeEngine.themeAt, found] at hu
    exact (Except.ok.inj hu).symm
  cases serves with
  | cached | failed => simpa using found
  | resolved missed resolves =>
    rw [ThemeCache.get?_bind, ThemeCache.get?_countMiss]
    split_ifs with hkey
    · exact congrArg some (hsees _ (hkey ▸ (resolution_eq_ok resolves).2.2))
    · exact found
  | replaced missed fails notFound default =>
    rw [ThemeCache.get?_put, ThemeCache.get?_countMiss]
    split_ifs with hkey
    · exact congrArg some (hsees _ (hkey ▸ defaultResolution_eq_ok default))
    · exact found

/-- Serving a page binds no other. -/
theorem Served.pageKey?_of_ne (serves : Served e page outcome next) (hq : q ≠ page) :
    next.cache.pageKey? q = e.cache.pageKey? q := by
  cases serves with
  | cached | failed => rfl
  | resolved => rw [ThemeCache.pageKey?_bind, if_neg hq, ThemeCache.pageKey?_countMiss]
  | replaced => rw [ThemeCache.pageKey?_put, ThemeCache.pageKey?_countMiss]

theorem Faithful.served (h : Faithful e given) (serves : Served e page outcome next)
    (call : EngineCall) : Faithful next (noted call page given outcome) := by
  refine ⟨serves.store_eq ▸ h.integrity, ?_, ?_⟩
  · intro q key hkey
    by_cases hbound : e.cache.pageKey? q = some key
    · obtain ⟨t, ht⟩ := h.backed q key hbound
      exact ⟨t, serves.get?_of_cached ht⟩
    · -- Only the page that was resolved can be bound to something else.
      cases serves with
      | cached | failed => exact absurd hkey hbound
      | replaced =>
        rw [ThemeCache.pageKey?_put] at hkey
        exact absurd hkey hbound
      | @resolved k t state missed resolves =>
        rw [ThemeCache.pageKey?_bind] at hkey
        split_ifs at hkey with hq
        · cases hkey
          exact ⟨t, by rw [ThemeCache.get?_bind, if_pos rfl]⟩
        · exact absurd hkey hbound
  · intro q t ht
    by_cases hq : q = page
    · rw [hq] at ht
      rw [serves.outcome_of_next_cached ht, noted, lastGiven_cons, if_pos hq.symm]
      exact .inl rfl
    · have hbefore : e.cache.pageTheme? q = some t := by
        obtain ⟨key, hkey, hget⟩ := next.cache.pageKey?_of_pageTheme? q t ht
        rw [serves.pageKey?_of_ne hq] at hkey
        obtain ⟨u, hu⟩ := h.backed q key hkey
        rw [serves.get?_of_cached hu] at hget
        rw [ThemeCache.pageTheme?, hkey, Option.bind_some, hu, hget]
      have hold := h.cached q t hbefore
      cases outcome with
      | error failure => exact hold
      | ok u =>
        rw [noted, lastGiven_cons, if_neg (Ne.symm hq)]
        exact hold.imp_right fun helsewhere => helsewhere.cons _

theorem Faithful.pageTheme (h : Faithful e given) (call : EngineCall) (page : String) :
    Faithful (ThemeEngine.pageTheme page e).2
      (noted call page given (ThemeEngine.pageTheme page e).1) :=
  h.served (served_pageTheme h.integrity page) call

theorem Faithful.announceServed (h : Faithful e given) (call : EngineCall) (page : String) :
    Faithful (announceServed page (ThemeEngine.pageTheme page e)).2
      (noted call page given (announceServed page (ThemeEngine.pageTheme page e)).1) := by
  obtain ⟨changes, hnext⟩ := announceServed_snd page (ThemeEngine.pageTheme page e)
  rw [announceServed_fst, hnext]
  exact (h.pageTheme call page).withChanges changes

/-! ## Assignments -/

/-- **An assignment replaces the theme of all pages that are bound to its key.** -/
theorem Faithful.assigned (h : Faithful e given) (hs : e'.store.Integrity) {key : ThemeKey}
    (hcache : e'.cache = e.cache.bind page key t) {id : String} {isVariation : Bool}
    (hcall : call = .applyTheme page id isVariation) :
    Faithful e' (⟨call, page, t⟩ :: given) := by
  refine ⟨hs, ?_, ?_⟩
  · intro q k hk
    rw [hcache, ThemeCache.pageKey?_bind] at hk
    rw [hcache, ThemeCache.get?_bind]
    by_cases hkey : k = key
    · exact ⟨t, if_pos hkey⟩
    · rw [if_neg hkey]
      split_ifs at hk with hq
      · exact absurd (Option.some.inj hk).symm hkey
      · exact h.backed q k hk
  · intro q u hu
    rw [lastGiven_cons]
    obtain ⟨k, hk, hget⟩ := e'.cache.pageKey?_of_pageTheme? q u hu
    rw [hcache, ThemeCache.pageKey?_bind] at hk
    rw [hcache, ThemeCache.get?_bind] at hget
    by_cases hq : q = page
    · rw [if_pos hq] at hk
      rw [if_pos (Option.some.inj hk).symm] at hget
      exact .inl (by rw [if_pos hq.symm, Option.some.inj hget])
    · rw [if_neg hq] at hk
      rw [if_neg (Ne.symm hq)]
      by_cases hkey : k = key
      · rw [if_pos hkey] at hget
        refine .inr ⟨_, List.mem_cons_self, Ne.symm hq, Option.some.inj hget, id, isVariation, hcall⟩
      · rw [if_neg hkey] at hget
        have hbefore : e.cache.pageTheme? q = some u := by
          rw [ThemeCache.pageTheme?, hk, Option.bind_some, hget]
        exact (h.cached q u hbefore).imp_right fun helsewhere => helsewhere.cons _

theorem Faithful.applyTheme (h : Faithful e given) (page id : String) (isVariation : Bool) :
    Faithful (perform (.applyTheme page id isVariation) e).2
      (givenBy (.applyTheme page id isVariation) e given) := by
  have hs := integrity_perform h.integrity (.applyTheme page id isVariation)
  rw [perform, run_discard] at hs ⊢
  rw [givenBy]
  rcases run_applyTheme h.integrity page id isVariation with
    ⟨failure, hrun⟩ | ⟨key, t, target, state, -, -, -, -, hrun⟩
  · rw [hrun]
    exact h
  · rw [hrun] at hs ⊢
    exact h.assigned hs rfl rfl

theorem Faithful.resetTheme (h : Faithful e given) (page : String) :
    Faithful (perform (.resetTheme page) e).2 (givenBy (.resetTheme page) e given) := by
  rw [perform, run_discard, givenBy]
  cases online : e.store.offline with
  | true =>
    obtain ⟨failure, hrun⟩ := refused_resetTheme online page
    rw [hrun]
    exact h
  | false =>
    have hs : (e.unassigned page).store.Integrity := h.integrity.change (.deleteAssignment page)
    have hunbound : Faithful (e.unassigned page) given :=
      h.loses hs (ThemeCache.loses_unbind e.cache page)
    rw [run_resetTheme online]
    exact hunbound.announceServed _ page

/-! ## Refreshing -/

theorem Faithful.refreshPage (h : Faithful e given) (page : String) :
    Faithful (perform (.refreshPage page) e).2 (givenBy (.refreshPage page) e given) := by
  have hdropped : Faithful (e.withoutPage page) given :=
    h.loses h.integrity (ThemeCache.loses_dropPage e.cache page)
  rw [perform, run_discard, givenBy, run_refreshPage]
  exact hdropped.announceServed _ page

theorem Faithful.resolveAll (h : Faithful e given) (call : EngineCall)
    (pages : List (String × Option Styles)) :
    Faithful (ThemeEngine.resolveAll pages e).2 (notedEach call pages e given) := by
  induction pages generalizing e given with
  | nil => exact h
  | cons entry pages ih =>
    obtain ⟨page, old?⟩ := entry
    rw [run_resolveAll_cons, notedEach]
    exact ih ((h.pageTheme call page).withChanges _)

theorem Faithful.refreshAll (h : Faithful e given) (call : EngineCall) (order : VisitOrder) :
    Faithful (ThemeEngine.refreshAll order e).2 (notedAll call order e given) := by
  have hcleared : Faithful e.cleared given :=
    h.loses h.integrity (ThemeCache.loses_clear e.cache)
  rw [run_refreshAll, notedAll]
  cases hoff : e.store.offline with
  | true =>
    rw [run_refreshKnown_offline (e := e.cleared) hoff]
    exact hcleared.withChanges _
  | false =>
    rw [refreshKnown_snd (e := e.cleared) hoff]
    exact (hcleared.withChanges _).resolveAll call _

theorem Faithful.askPages (h : Faithful e given) (call : EngineCall) (pages : List String) :
    Faithful (ThemeEngine.askPages pages e).2 (notedUntil call pages e given) := by
  induction pages generalizing e given with
  | nil => exact h
  | cons page pages ih =>
    have hfirst := h.pageTheme call page
    rw [run_askPages_cons, notedUntil]
    generalize ThemeEngine.pageTheme page e = served at hfirst ⊢
    obtain ⟨outcome, next⟩ := served
    cases outcome with
    | error failure => exact hfirst
    | ok t => exact ih hfirst

theorem Faithful.refreshRound (h : Faithful e given) (pages : List String) (order : VisitOrder) :
    Faithful (perform (.refreshRound pages order) e).2
      (givenBy (.refreshRound pages order) e given) := by
  have hall := h.refreshAll (.refreshRound pages order) order
  rw [givenBy]
  show Faithful ((ThemeEngine.refreshAll order >>= fun _ => ThemeEngine.askPages pages) e).2 _
  rw [run_bind]
  generalize ThemeEngine.refreshAll order e = refreshed at hall ⊢
  obtain ⟨outcome, next⟩ := refreshed
  cases outcome with
  | error failure => exact hall
  | ok themes => exact hall.askPages _ pages

/-! ## Runs -/

/-- A call that gives nothing to pages only loses cached themes. -/
theorem Faithful.refused_or (h : Faithful e given) (hs : (perform call e).2.store.Integrity)
    (hrun : Refused (perform call) e ∨ e.cache.Loses (perform call e).2.cache) :
    Faithful (perform call e).2 given := by
  rcases hrun with ⟨failure, hrun⟩ | hloses
  · rwa [hrun]
  · exact h.loses hs hloses

theorem Faithful.perform (h : Faithful e given) (call : EngineCall) :
    Faithful (ThemeEngine.perform call e).2 (givenBy call e given) := by
  have hs := integrity_perform h.integrity call
  cases call with
  | pageTheme page =>
    rw [ThemeEngine.perform, run_discard]
    exact h.pageTheme _ page
  | applyTheme page id isVariation => exact h.applyTheme page id isVariation
  | resetTheme page => exact h.resetTheme page
  | refreshPage page => exact h.refreshPage page
  | refreshAll order =>
    rw [ThemeEngine.perform, run_discard]
    exact h.refreshAll _ order
  | refreshRound pages order => exact h.refreshRound pages order
  | setOffline offline => exact h.loses hs (ThemeCache.loses_refl _)
  | listThemes | listVariations =>
    rw [ThemeEngine.perform, run_discard] at hs ⊢
    exact h.loses hs (ThemeCache.loses_refl _)
  | createTheme data =>
    refine h.refused_or hs ?_
    rcases run_createTheme data e with hrefused | ⟨_, t, -, -, -, hrun⟩
    · exact .inl hrefused.discarded
    · rw [ThemeEngine.perform, run_discard, hrun]
      exact .inr (ThemeCache.loses_refl _)
  | createVariation parentId data now =>
    refine h.refused_or hs ?_
    rcases run_createVariation h.integrity parentId data now with hrefused | ⟨_, v, -, -, hrun⟩
    · exact .inl hrefused.discarded
    · rw [ThemeEngine.perform, run_discard, hrun]
      exact .inr (ThemeCache.loses_refl _)
  | updateTheme id patch =>
    refine h.refused_or hs ?_
    rcases run_updateTheme id patch e with hrefused | ⟨t, -, hrun⟩
    · exact .inl hrefused.discarded
    · rw [ThemeEngine.perform, run_discard, hrun]
      exact .inr (ThemeCache.loses_dropAll e.cache _)
  | deleteTheme id =>
    refine h.refused_or hs ?_
    rcases run_deleteTheme id e with hrefused | ⟨-, hrun⟩
    · exact .inl hrefused
    · rw [ThemeEngine.perform, hrun]
      exact .inr (ThemeCache.loses_dropAll e.cache _)
  | setDefaultTheme id =>
    refine h.refused_or hs ?_
    rcases run_setDefaultTheme id e with hrefused | ⟨t, -, hrun⟩
    · exact .inl hrefused.discarded
    · rw [ThemeEngine.perform, run_discard, hrun]
      exact .inr (ThemeCache.loses_filter_pages e.cache _)

theorem Faithful.after {w : Watched} (h : Faithful w.engine w.given) (happening : Happening) :
    Faithful (w.after happening).engine (w.after happening).given := by
  cases happening with
  | call call => exact h.perform call
  | edit edit => exact h.loses (h.integrity.run [edit]) (ThemeCache.loses_refl _)

theorem Faithful.run {w : Watched} (h : Faithful w.engine w.given)
    (happenings : List Happening) :
    Faithful (w.run happenings).engine (w.run happenings).given := by
  induction happenings generalizing w with
  | nil => exact h
  | cons happening happenings ih => exact ih (h.after happening)

theorem faithful_new {s : MemoryStore} (hs : s.Integrity) (fallback : Option ResolvedTheme) :
    Faithful { store := s, fallback } [] := by
  refine ⟨hs, ?_, ?_⟩
  · intro page key hkey
    cases hkey
  · intro page t ht
    cases ht

/-! ## What is announced -/

/-- The themes that are announced for a page. -/
def announcedFor (page : String) (changes : List ThemeChange) : List ResolvedTheme :=
  changes.filterMap fun
    | .page q t => if q = page then some t else none
    | _ => none

theorem announcedFor_append (page : String) (changes changes' : List ThemeChange) :
    announcedFor page (changes ++ changes') =
      announcedFor page changes ++ announcedFor page changes' := List.filterMap_append

theorem announcedFor_newsOf_of_ne (hq : q ≠ page) (old? : Option Styles)
    (outcome : Except Failure ResolvedTheme) : announcedFor page (newsOf q old? outcome) = [] := by
  cases outcome with
  | error failure => rfl
  | ok t =>
    rw [newsOf]
    split_ifs
    · simp [announcedFor, hq]
    · rfl

theorem announcedFor_newsOf (page : String) (old? : Option Styles) (t : ResolvedTheme) :
    announcedFor page (newsOf page old? (.ok t)) =
      if old? = some t.properties then [] else [t] := by
  by_cases hold : old? = some t.properties
  · simp [newsOf, announcedFor, hold]
  · simp [newsOf, announcedFor, hold]

/-- A page is announced with the theme that it is resolved to, if this has other properties. -/
theorem announcedFor_newsOf_cases (page : String) (old? : Option Styles)
    (outcome : Except Failure ResolvedTheme) :
    (announcedFor page (newsOf page old? outcome) = [] ∨
        ∃ t, announcedFor page (newsOf page old? outcome) = [t] ∧ outcome.toOption = some t) ∧
      (announcedFor page (newsOf page old? outcome) ≠ [] ↔
        ∃ t, outcome.toOption = some t ∧ old? ≠ some t.properties) := by
  cases outcome with
  | error failure => simp [newsOf, announcedFor, Except.toOption]
  | ok t =>
    rw [announcedFor_newsOf]
    by_cases hold : old? = some t.properties
    · simp [hold, Except.toOption]
    · simp [hold, Except.toOption]

/-- What is announced of other pages is not for the page. -/
theorem announcedFor_flatMap_of_not_mem {pages : List String} {news : String → List ThemeChange}
    (apart : ∀ q, q ≠ page → announcedFor page (news q) = []) (absent : page ∉ pages) :
    announcedFor page (pages.flatMap news) = [] := by
  induction pages with
  | nil => rfl
  | cons q pages ih =>
    rw [List.mem_cons, not_or] at absent
    rw [List.flatMap_cons, announcedFor_append, apart q (Ne.symm absent.1), ih absent.2]
    rfl

/-- A page that stands once among others is announced as if it were alone. -/
theorem announcedFor_flatMap {pages : List String} {news : String → List ThemeChange}
    (apart : ∀ q, q ≠ page → announcedFor page (news q) = []) (once : pages.Nodup)
    (mem : page ∈ pages) :
    announcedFor page (pages.flatMap news) = announcedFor page (news page) := by
  obtain ⟨before, after, rfl⟩ := List.append_of_mem mem
  rw [List.nodup_append, List.nodup_cons] at once
  have hbefore : page ∉ before := by
    intro hmem
    exact once.2.2 page hmem page List.mem_cons_self rfl
  rw [List.flatMap_append, List.flatMap_cons, announcedFor_append, announcedFor_append,
    announcedFor_flatMap_of_not_mem apart hbefore,
    announcedFor_flatMap_of_not_mem apart once.2.1.1, List.nil_append, List.append_nil]

theorem Coherent.changes_resolveAll (h : e.Coherent) (online : e.store.offline = false)
    (pages : List (String × Option Styles)) :
    (ThemeEngine.resolveAll pages e).2.changes = e.changes ++ pages.flatMap fun entry =>
      newsOf entry.1 entry.2 (e.store.themeOf e.fallback entry.1) := by
  induction pages generalizing e with
  | nil => exact (List.append_nil _).symm
  | cons entry pages ih =>
    obtain ⟨page, old?⟩ := entry
    obtain ⟨hstore, hfallback⟩ := frame_renewed h.integrity page old?
    have stays : (ThemeEngine.renewed page old? e).store.offline = false := by rwa [hstore]
    have hchanges : (ThemeEngine.renewed page old? e).changes =
        e.changes ++ newsOf page old? (e.store.themeOf e.fallback page) := by
      show (ThemeEngine.pageTheme page e).2.changes ++ _ = _
      rw [changes_pageTheme h.integrity, h.pageTheme_fst online]
    rw [run_resolveAll_cons, ih (h.renewed page old?) stays, hstore, hfallback, hchanges,
      List.flatMap_cons, List.append_assoc]

/-- **What a full refresh announces.** -/
theorem published_refreshAll (h : e.store.Integrity) (online : e.store.offline = false)
    (order : VisitOrder) :
    published (.refreshAll order) e =
      .refreshed :: (knownEntries order e).flatMap fun entry =>
        newsOf entry.1 entry.2 (e.store.themeOf e.fallback entry.1) := by
  have hc := (coherent_cleared h).withChanges (e.changes ++ [.refreshed])
  have hchanges := hc.changes_resolveAll online (knownEntries order e)
  rw [published, ThemeEngine.perform, run_discard, run_refreshAll,
    refreshKnown_snd (e := e.cleared) online]
  show (ThemeEngine.resolveAll _ (e.cleared.withChanges (e.changes ++ [.refreshed]))).2.changes.drop
    e.changes.length = _
  rw [hchanges]
  show ((e.changes ++ [ThemeChange.refreshed]) ++ _).drop e.changes.length = _
  rw [List.append_assoc, List.drop_left]
  rfl

/-- **What a full refresh announces for a page**: its theme, if its properties are not those of the
theme that is cached for the page. -/
theorem announcedFor_refreshAll (h : e.store.Integrity) (online : e.store.offline = false)
    (order : VisitOrder) (known : Known page e) :
    announcedFor page (published (.refreshAll order) e) =
      announcedFor page (newsOf page ((e.cache.pageTheme? page).map ResolvedTheme.properties)
        (e.store.themeOf e.fallback page)) := by
  have once : (order.arrange e.states.keys).Nodup :=
    (order.perm _).nodup_iff.2 (Table.nodup_keys e.states)
  rw [published_refreshAll h online, knownEntries, List.flatMap_map]
  show announcedFor page (List.flatMap _ (order.arrange e.states.keys)) = _
  exact announcedFor_flatMap (fun q hq => announcedFor_newsOf_of_ne hq _ _) once
    ((mem_arrange_iff order page).2 known)

theorem shown_refreshAll (h : e.store.Integrity) (online : e.store.offline = false)
    (order : VisitOrder) (page : String) :
    shown page (ThemeEngine.perform (.refreshAll order) e).2 =
      (e.store.themeOf e.fallback page).toOption := by
  have hquiet := isQuiet_refreshAll order e h
  have hc := coherent_refreshAll h order
  have stays : (ThemeEngine.refreshAll order e).2.store.offline = false := by
    rwa [hquiet.store_eq]
  rw [ThemeEngine.perform, run_discard]
  show shown page (ThemeEngine.refreshAll order e).2 = _
  rw [hc.shown_eq stays, hquiet.store_eq, hquiet.fallback_eq, MemoryStore.shown]

/-! ## What is announced of what has changed -/

/-- A full refresh is wrong about whether a page has another theme than it was given last. -/
inductive Misjudged (page : String) (w : Watched) (now : Option ResolvedTheme) : Prop
  /-- Nothing is cached for the page, and it has the theme that it was given. -/
  | unbound {t : ResolvedTheme} (has : now = some t)
      (uncached : w.engine.cache.pageTheme? page = none)
      (same : lastGiven page w.given = some t)
  /-- The page was given another theme, but the cached one has the same properties. -/
  | alike {t c : ResolvedTheme} (has : now = some t)
      (cached : w.engine.cache.pageTheme? page = some c) (like : c.properties = t.properties)
      (other : lastGiven page w.given ≠ some t)
  /-- The page has the theme that it was given, but another one is cached for it. -/
  | displaced {t c : ResolvedTheme} (has : now = some t)
      (cached : w.engine.cache.pageTheme? page = some c) (unlike : c.properties ≠ t.properties)
      (same : lastGiven page w.given = some t)

/-- Judging by the cached properties is right, but for a page that is misjudged. -/
theorem judges_iff {w : Watched} {now : Option ResolvedTheme} :
    ((∃ t, now = some t ∧
          (w.engine.cache.pageTheme? page).map ResolvedTheme.properties ≠ some t.properties) ↔
        ∃ t, now = some t ∧ lastGiven page w.given ≠ some t) ↔ ¬ Misjudged page w now := by
  cases now with
  | none =>
    refine iff_of_true (by simp) ?_
    intro hmisjudged
    cases hmisjudged with
    | unbound has | alike has | displaced has => cases has
  | some t =>
    simp only [Option.some.injEq, exists_eq_left']
    cases hcached : w.engine.cache.pageTheme? page with
    | none =>
      constructor
      · intro hjudges hmisjudged
        cases hmisjudged with
        | unbound has _ same =>
          cases has
          exact hjudges.1 nofun same
        | alike _ cached | displaced _ cached =>
          rw [hcached] at cached
          cases cached
      · intro hright
        refine iff_of_true nofun ?_
        intro same
        exact hright (.unbound rfl hcached same)
    | some c =>
      simp only [Option.map_some, ne_eq, Option.some.injEq]
      constructor
      · intro hjudges hmisjudged
        cases hmisjudged with
        | unbound _ uncached =>
          rw [hcached] at uncached
          cases uncached
        | alike has cached like other =>
          rw [hcached] at cached
          cases has
          cases cached
          exact hjudges.2 other like
        | displaced has cached unlike same =>
          rw [hcached] at cached
          cases has
          cases cached
          exact hjudges.1 unlike same
      · intro hright
        by_cases hlike : c.properties = t.properties
        · refine iff_of_false (not_not.2 hlike) ?_
          intro other
          exact hright (.alike rfl hcached hlike other)
        · refine iff_of_true hlike ?_
          intro same
          exact hright (.displaced rfl hcached hlike same)

/-- **When a full refresh announces a page.** Calls and requests of others to the store may have come
in any order before. -/
theorem refreshAll_news_iff {snapshot : StoreSnapshot} {s : MemoryStore}
    (opened : MemoryStore.Opened snapshot s) (fallback : Option ResolvedTheme)
    (happenings : List Happening) (order : VisitOrder) (page : String) :
    let w := Watched.run happenings { engine := { store := s, fallback } }
    let told := announcedFor page (published (.refreshAll order) w.engine)
    let now := shown page (ThemeEngine.perform (.refreshAll order) w.engine).2
    w.engine.store.offline = false → Known page w.engine →
      (told = [] ∨ ∃ t, told = [t] ∧ now = some t) ∧
        ((told ≠ [] ↔ ∃ t, now = some t ∧ lastGiven page w.given ≠ some t) ↔
          ¬ Misjudged page w now) ∧
        ∀ t, w.engine.cache.pageTheme? page = some t →
          lastGiven page w.given = some t ∨ GivenElsewhere page t w.given := by
  intro w told now online known
  have h : Faithful w.engine w.given :=
    Faithful.run (faithful_new (MemoryStore.integrity_opened opened) fallback) happenings
  have htold := announcedFor_refreshAll h.integrity online order known
  have hnow := shown_refreshAll h.integrity online order page
  have hcases : (told = [] ∨ ∃ t, told = [t] ∧ now = some t) ∧ (told ≠ [] ↔ ∃ t, now = some t ∧
      (w.engine.cache.pageTheme? page).map ResolvedTheme.properties ≠ some t.properties) := by
    simp only [told, now, htold, hnow]
    exact announcedFor_newsOf_cases page _ _
  refine ⟨hcases.1, ?_, h.cached page⟩
  rw [hcases.2]
  exact judges_iff

/-- A page is served, and its theme gets a color behind the back of the engine. -/
def recoloredPlain : List Happening :=
  [.call (.pageTheme "about"),
   .edit (.updateTheme "plain" { colors := some (Table.empty.insert "primary" "red") })]

/-- The page has another theme then, and is announced. -/
theorem refreshAll_news_of_recolored :
    ∃ s w, MemoryStore.ofSnapshot soleDefault = .ok s ∧
      w = Watched.run recoloredPlain { engine := { store := s } } ∧
      announcedFor "about" (published (.refreshAll .byId) w.engine) ≠ [] := by
  obtain ⟨s, hs⟩ : ∃ s, MemoryStore.ofSnapshot soleDefault = .ok s := ⟨_, rfl⟩
  obtain ⟨w, hw⟩ : ∃ w, w = Watched.run recoloredPlain { engine := { store := s } } := ⟨_, rfl⟩
  obtain ⟨now, hnow⟩ :
    ∃ now, now = shown "about" (ThemeEngine.perform (.refreshAll .byId) w.engine).2 := ⟨_, rfl⟩
  have hfacts : w.engine.store.offline = false ∧ Known "about" w.engine ∧ now ≠ none ∧
      w.engine.cache.pageTheme? "about" ≠ none ∧
      (w.engine.cache.pageTheme? "about").map ResolvedTheme.properties ≠
        now.map ResolvedTheme.properties ∧
      lastGiven "about" w.given ≠ now := by
    cases hs
    subst hw hnow
    decide +kernel
  obtain ⟨online, known, hsome, hcached, hunlike, hother⟩ := hfacts
  obtain ⟨t, ht⟩ := Option.ne_none_iff_exists'.1 hsome
  have hjudged : ¬ Misjudged "about" w now := by
    intro hmisjudged
    cases hmisjudged with
    | unbound _ uncached => exact hcached uncached
    | alike has cached like => exact hunlike (by rw [has, cached, Option.map_some, like]; rfl)
    | displaced has _ _ same => exact hother (same.trans has.symm)
  subst hw hnow
  have hnews := refreshAll_news_iff (.loaded hs) none recoloredPlain .byId "about" online known
  exact ⟨s, _, hs, rfl, (hnews.2.1.2 hjudged).2 ⟨t, ht, ht ▸ hother⟩⟩

/-- **Pages that a full refresh misjudges.** A page is assigned to a theme with the same colors; a
page has the default theme in place of its own; a theme gets a color, and another page is assigned to
it. -/
theorem misjudged_news :
    (∃ s w, MemoryStore.ofSnapshot MemoryStore.lightAndDark = .ok s ∧
      w = Watched.run [.call (.pageTheme "about"), .edit (.assign "about" ⟨"dark", none, false⟩)]
        { engine := { store := s } } ∧
      Known "about" w.engine ∧
      announcedFor "about" (published (.refreshAll .byId) w.engine) = [] ∧
      (lastGiven "about" w.given).map ResolvedTheme.name = some "light" ∧
      (shown "about" (ThemeEngine.perform (.refreshAll .byId) w.engine).2).map
        ResolvedTheme.name = some "dark") ∧
    (∃ s w, MemoryStore.ofSnapshot soleDefault = .ok s ∧
      w = Watched.run [.call (.pageTheme "home")] { engine := { store := s } } ∧
      Known "home" w.engine ∧
      announcedFor "home" (published (.refreshAll .byId) w.engine) ≠ [] ∧
      lastGiven "home" w.given =
        shown "home" (ThemeEngine.perform (.refreshAll .byId) w.engine).2) ∧
    ∃ s w, MemoryStore.ofSnapshot soleDefault = .ok s ∧
      w = Watched.run (recoloredPlain ++ [.call (.applyTheme "team" "plain" false)])
        { engine := { store := s } } ∧
      Known "about" w.engine ∧
      announcedFor "about" (published (.refreshAll .byId) w.engine) = [] ∧
      lastGiven "about" w.given ≠
        shown "about" (ThemeEngine.perform (.refreshAll .byId) w.engine).2 := by
  refine ⟨⟨_, _, rfl, rfl, ?_⟩, ⟨_, _, rfl, rfl, ?_⟩, _, _, rfl, rfl, ?_⟩
  all_goals decide +kernel

end ThemeEngine

end ThemedPages
