import Mathlib.Data.List.Perm.Basic
import ThemedPages.Theme.Cache

/-!
# What pages of a cache are bound to

A page is bound to a key at the moment when a theme is put under the key. The theme may be replaced
later, and it goes only together with the pages that are bound to its key. So a bound page always
has a theme (`Backed`), whatever calls a cache got since it was new.

**Theorem (`dropFamily_exact`).** After any calls, a page is served just when it is bound. Dropping
the family of a theme drops the entry of the theme, the entries of the variations that name it as
their parent, and the pages that are bound to one of these; whatever else is there stays as it was.

The family is found by looking through the entries, in an order that nothing promises, and is then
dropped key by key. What is left does not depend on the order.
-/

namespace ThemedPages

/-- A call to a cache. -/
inductive CacheCall
  | serve (page : String)
  | put (key : ThemeKey) (t : ResolvedTheme)
  | bind (page : String) (key : ThemeKey) (t : ResolvedTheme)
  | unbind (page : String)
  | drop (key : ThemeKey)
  | dropFamily (themeId : String)
  | clear
  /-- Start again as a new cache, with new counts. -/
  | restart

namespace ThemeCache

/-- The cache after a call. -/
def perform : CacheCall → ThemeCache → ThemeCache
  | .serve page, c => (c.serve page).2
  | .put key t, c => c.put key t
  | .bind page key t, c => c.bind page key t
  | .unbind page, c => c.unbind page
  | .drop key, c => c.drop key
  | .dropFamily themeId, c => c.dropFamily themeId
  | .clear, c => c.clear
  | .restart, _ => {}

/-- The cache after a sequence of calls. -/
def runCalls (calls : List CacheCall) (c : ThemeCache) : ThemeCache :=
  calls.foldl (fun c call => perform call c) c

/-- Every page that is bound has a theme under its key. -/
def Backed (c : ThemeCache) : Prop :=
  ∀ page key, c.pageKey? page = some key → ∃ t, c.get? key = some t

/-- What goes with a theme: its own entry, and the variations that name it as their parent. -/
inductive OfFamily (c : ThemeCache) (themeId : String) : ThemeKey → Prop
  | theme : OfFamily c themeId (.theme themeId)
  | variation {id : String} {t : ResolvedTheme} (cached : c.get? (.variation id) = some t)
      (parent : t.parentId = some themeId) : OfFamily c themeId (.variation id)

/-- A cache is what another one was, without the family of a theme and the pages bound to it. -/
structure WithoutFamily (c : ThemeCache) (themeId : String) (c' : ThemeCache) : Prop where
  entries : ∀ key t, c'.get? key = some t ↔ c.get? key = some t ∧ ¬ c.OfFamily themeId key
  bindings : ∀ page key,
    c'.pageKey? page = some key ↔ c.pageKey? page = some key ∧ ¬ c.OfFamily themeId key
  hits : c'.hits = c.hits
  misses : c'.misses = c.misses

variable {c c' : ThemeCache} {page themeId : String} {key : ThemeKey} {t : ResolvedTheme}

/-! ## Bound pages have a theme -/

theorem Backed.put (h : c.Backed) (key : ThemeKey) (t : ResolvedTheme) : (c.put key t).Backed := by
  intro q k hq
  rw [pageKey?_put] at hq
  rw [get?_put]
  by_cases hk : k = key
  · exact ⟨t, if_pos hk⟩
  · rw [if_neg hk]
    exact h q k hq

theorem Backed.bind (h : c.Backed) (page : String) (key : ThemeKey) (t : ResolvedTheme) :
    (c.bind page key t).Backed := by
  intro q k hq
  rw [pageKey?_bind] at hq
  rw [get?_bind]
  by_cases hk : k = key
  · exact ⟨t, if_pos hk⟩
  · rw [if_neg hk]
    by_cases hpage : q = page
    · rw [if_pos hpage] at hq
      cases hq
      exact absurd rfl hk
    · rw [if_neg hpage] at hq
      exact h q k hq

theorem Backed.unbind (h : c.Backed) (page : String) : (c.unbind page).Backed := by
  intro q k hq
  rw [pageKey?_unbind] at hq
  rw [get?_unbind]
  by_cases hpage : q = page
  · rw [if_pos hpage] at hq
    cases hq
  · rw [if_neg hpage] at hq
    exact h q k hq

theorem Backed.drop (h : c.Backed) (key : ThemeKey) : (c.drop key).Backed := by
  intro q k hq
  rw [pageKey?_drop, Option.filter_eq_some_iff] at hq
  rw [get?_drop, if_neg (bne_iff_ne.1 hq.2)]
  exact h q k hq.1

theorem Backed.dropAll (h : c.Backed) (keys : List ThemeKey) :
    (keys.foldl ThemeCache.drop c).Backed := by
  induction keys generalizing c with
  | nil => exact h
  | cons key keys ih => exact ih (h.drop key)

theorem Backed.serve (h : c.Backed) (page : String) : (c.serve page).2.Backed := by
  unfold ThemeCache.serve
  cases c.pageTheme? page with
  | none =>
    intro q k hq
    rw [get?_countMiss]
    exact h q k hq
  | some t =>
    intro q k hq
    rw [get?_countHit]
    exact h q k hq

theorem backed_new : Backed {} := by
  intro q k hq
  cases hq

/-- **One call.** -/
theorem Backed.perform (h : c.Backed) (call : CacheCall) : (perform call c).Backed := by
  cases call with
  | serve page => exact h.serve page
  | put key t => exact h.put key t
  | bind page key t => exact h.bind page key t
  | unbind page => exact h.unbind page
  | drop key => exact h.drop key
  | dropFamily themeId => exact h.dropAll (c.family themeId)
  | clear =>
    intro q k hq
    cases hq
  | restart => exact backed_new

theorem Backed.run (h : c.Backed) (calls : List CacheCall) : (runCalls calls c).Backed := by
  induction calls generalizing c with
  | nil => exact h
  | cons call calls ih => exact ih (h.perform call)

/-- A page is served just when it is bound. -/
theorem Backed.isSome_serve (h : c.Backed) (page : String) :
    (c.serve page).1.isSome = (c.pageKey? page).isSome := by
  have hserve : (c.serve page).1 = c.pageTheme? page := by
    unfold ThemeCache.serve
    cases c.pageTheme? page <;> rfl
  rw [hserve, pageTheme?]
  cases hkey : c.pageKey? page with
  | none => rfl
  | some key =>
    obtain ⟨t, ht⟩ := h page key hkey
    rw [Option.bind_some, ht]
    rfl

/-! ## Dropping a family -/

theorem isFamily_iff (cached : c.get? key = some t) :
    isFamily themeId key t = true ↔ c.OfFamily themeId key := by
  cases key with
  | theme id =>
    constructor
    · intro hid
      rw [beq_iff_eq.1 hid]
      exact .theme
    · rintro ⟨⟩
      exact beq_self_eq_true themeId
  | variation id =>
    constructor
    · intro hparent
      exact .variation cached (beq_iff_eq.1 hparent)
    · intro hfamily
      cases hfamily with
      | variation cached' parent =>
        rw [cached] at cached'
        cases cached'
        exact beq_iff_eq.2 parent

/-- The keys that are looked for are those of the family, as far as they are cached. -/
theorem mem_family_iff (cached : c.get? key = some t) :
    key ∈ c.family themeId ↔ c.OfFamily themeId key := by
  rw [mem_family]
  constructor
  · rintro ⟨t', ht', hfamily⟩
    exact (isFamily_iff ht').1 hfamily
  · intro hfamily
    exact ⟨t, cached, (isFamily_iff cached).2 hfamily⟩

theorem counts_dropAll (c : ThemeCache) (keys : List ThemeKey) :
    (keys.foldl drop c).hits = c.hits ∧ (keys.foldl drop c).misses = c.misses := by
  induction keys generalizing c with
  | nil => exact ⟨rfl, rfl⟩
  | cons key keys ih =>
    have hdrop : (c.drop key).hits = c.hits ∧ (c.drop key).misses = c.misses := by
      cases key <;> exact ⟨rfl, rfl⟩
    rw [List.foldl_cons, (ih _).1, (ih _).2]
    exact hdrop

/-- **What dropping a family leaves.** A page that is bound to a key of the family is found through
its theme, which is there. -/
theorem Backed.withoutFamily (h : c.Backed) (themeId : String) :
    c.WithoutFamily themeId (c.dropFamily themeId) where
  entries key t := by
    rw [get?_dropFamily, Option.filter_eq_some_iff]
    refine and_congr_right fun cached => ?_
    rw [← isFamily_iff cached]
    simp
  bindings page key := by
    rw [pageKey?_dropFamily, Option.filter_eq_some_iff]
    refine and_congr_right fun bound => ?_
    obtain ⟨t, cached⟩ := h page key bound
    rw [← mem_family_iff cached]
    simp
  hits := (c.counts_dropAll _).1
  misses := (c.counts_dropAll _).2

/-- Two caches that tell the same are the same. -/
theorem ext_view (entries : ∀ key, c.get? key = c'.get? key)
    (bindings : ∀ page, c.pageKey? page = c'.pageKey? page) (hits : c.hits = c'.hits)
    (misses : c.misses = c'.misses) : c = c' := by
  cases c
  cases c'
  congr 1
  · exact Table.ext_get? fun id => entries (.theme id)
  · exact Table.ext_get? fun id => entries (.variation id)
  · exact Table.ext_get? bindings

/-- The keys of a family may be dropped in any order. -/
theorem dropAll_of_perm {keys : List ThemeKey} (h : keys.Perm (c.family themeId)) :
    keys.foldl drop c = c.dropFamily themeId := by
  apply ext_view
  · intro key
    rw [dropFamily, get?_dropAll, get?_dropAll]
    simp only [h.mem_iff]
  · intro page
    rw [dropFamily, pageKey?_dropAll, pageKey?_dropAll]
    simp only [h.mem_iff]
  · rw [dropFamily, (c.counts_dropAll _).1, (c.counts_dropAll _).1]
  · rw [dropFamily, (c.counts_dropAll _).2, (c.counts_dropAll _).2]

/-! ## Any calls -/

/-- **No binding dangles, and a family goes as a whole and alone.** -/
theorem dropFamily_exact (calls : List CacheCall) {c : ThemeCache} (ran : runCalls calls {} = c) :
    c.Backed ∧ (∀ page, (c.serve page).1.isSome = (c.pageKey? page).isSome) ∧
      ∀ themeId, c.WithoutFamily themeId (c.dropFamily themeId) ∧
        ∀ keys : List ThemeKey, keys.Perm (c.family themeId) →
          keys.foldl drop c = c.dropFamily themeId := by
  have h : c.Backed := by
    rw [← ran]
    exact backed_new.run calls
  exact ⟨h, h.isSome_serve, fun themeId => ⟨h.withoutFamily themeId, fun _ => dropAll_of_perm⟩⟩

/-- A theme that a page can have. -/
def plainTheme (id : String) (origin : ThemeOrigin) (parentId : Option String) : ResolvedTheme where
  id := id
  name := id
  displayName := id
  category := .light
  properties := .empty
  origin := origin
  parentId := parentId

/-- A page is bound to a theme, one to a variation of it, and one to another theme of the id that the
variation has. -/
def threePages : List CacheCall :=
  [.bind "home" (.theme "dark") (plainTheme "dark" .theme none),
   .bind "about" (.variation "dusk") (plainTheme "dusk" .variation (some "dark")),
   .bind "team" (.theme "dusk") (plainTheme "dusk" .theme none), .serve "team"]

theorem dropFamily_of_threePages :
    ∃ c, runCalls threePages {} = c ∧ c.Backed ∧ c.hits = 1 ∧
      c.family "dark" = [.theme "dark", .variation "dusk"] ∧
      [ThemeKey.variation "dusk", .theme "dark"].foldl drop c = c.dropFamily "dark" ∧
      (c.dropFamily "dark").pageKey? "home" = none ∧
      (c.dropFamily "dark").pageKey? "about" = none ∧
      (c.dropFamily "dark").pageKey? "team" = some (.theme "dusk") := by
  obtain ⟨c, hc⟩ : ∃ c, runCalls threePages {} = c := ⟨_, rfl⟩
  have h := dropFamily_exact threePages hc
  have hfamily : c.family "dark" = [.theme "dark", .variation "dusk"] := by
    rw [← hc]
    decide
  refine ⟨c, hc, h.1, ?_, hfamily, ?_, ?_, ?_, ?_⟩
  · rw [← hc]
    decide
  · refine (h.2.2 "dark").2 _ ?_
    rw [hfamily]
    exact List.Perm.swap _ _ _
  · rw [← hc]
    decide
  · rw [← hc]
    decide
  · rw [← hc]
    decide

end ThemeCache

end ThemedPages
