import ThemedPages.Proofs.Engine.Steps

/-!
# The cache tells what the store holds

A cached theme is what the store has under its key, and a page is bound to the key that the store
names for it, by the way that is noted as its state. Calls that change the store drop what would
contradict it: a changed theme goes with all that is derived from it, and a new default theme
unbinds the pages that had the old one, which are found by their states.

**Theorem (`pageTheme_eq_themeOf`).** Whatever calls were made, and whenever the store was offline,
a page that is asked for while the store is online has the theme that the store alone gives it.
-/

namespace ThemedPages.ThemeEngine

/-- The cache and the states of pages agree with the store. -/
structure Coherent (e : ThemeEngine MemoryStore) : Prop where
  integrity : e.store.Integrity
  /-- A cached theme is what the store has under its key. -/
  theme : ∀ key t, e.cache.get? key = some t → e.store.themeAt key = .ok t
  /-- A page is bound to the key that the store names for it, and the theme is cached. -/
  page : ∀ page key, e.cache.pageKey? page = some key → ∃ state,
    e.store.target page = .ok (key, state) ∧ e.states.get? page = some state ∧
      (e.cache.get? key).isSome = true

variable {e e' : ThemeEngine MemoryStore}

/-! ## What a coherent engine sees -/

theorem Coherent.themeAt_eq (h : e.Coherent) (key : ThemeKey) :
    e.themeAt key = e.store.themeAt key := by
  rw [ThemeEngine.themeAt]
  cases hc : e.cache.get? key with
  | none => rfl
  | some t => exact (h.theme key t hc).symm

theorem resolution_eq_ok {page : String} {key : ThemeKey} {t : ResolvedTheme}
    {state : ResolutionState} (hr : e.resolution page = .ok (key, t, state)) :
    e.store.offline = false ∧ e.store.target page = .ok (key, state) ∧ e.themeAt key = .ok t := by
  unfold resolution answered at hr
  split at hr
  · cases hr
  · rename_i hoff
    obtain ⟨⟨key', state'⟩, htarget, hr⟩ := Except.exists_of_bind hr
    obtain ⟨t', ht, hr⟩ := Except.exists_of_bind hr
    cases hr
    exact ⟨by simpa using hoff, htarget, ht⟩

theorem themeAt_eq_error {key : ThemeKey} {failure : Failure} (ht : e.themeAt key = .error failure) :
    e.cache.get? key = none ∧ e.store.themeAt key = .error failure := by
  unfold ThemeEngine.themeAt at ht
  split at ht
  · cases ht
  · rename_i hc
    exact ⟨hc, ht⟩

/-- A page that cannot be resolved has nothing in the store, whatever is cached. -/
theorem resolution_eq_error (online : e.store.offline = false) {page : String} {failure : Failure}
    (hr : e.resolution page = .error failure) : e.store.chosenTheme page = .error failure := by
  simp only [resolution, answered, online, Bool.false_eq_true, if_false] at hr
  unfold MemoryStore.chosenTheme
  cases htarget : e.store.target page with
  | error failure' => simpa [htarget] using hr
  | ok r =>
    obtain ⟨key, state⟩ := r
    cases ht : e.themeAt key with
    | error failure' =>
      simp only [htarget, ht, Except.bind_of_ok, Except.bind_of_error, Except.error.injEq] at hr
      simp [(themeAt_eq_error ht).2, hr]
    | ok t => simp [htarget, ht, pure, Except.pure] at hr

/-- A page that is not served from a coherent cache is not bound. -/
theorem Coherent.pageKey?_eq_none (h : e.Coherent) {page : String}
    (missed : e.cache.pageTheme? page = none) : e.cache.pageKey? page = none := by
  cases hkey : e.cache.pageKey? page with
  | none => rfl
  | some key =>
    obtain ⟨state, -, -, hcached⟩ := h.page page key hkey
    obtain ⟨t, ht⟩ := Option.isSome_iff_exists.1 hcached
    simp [ThemeCache.pageTheme?, hkey, ht] at missed

/-! ## One page at a time -/

/-- The cache and the states agree with the store, apart from what is known of one page. -/
structure CoherentApart (page : String) (e : ThemeEngine MemoryStore) : Prop where
  integrity : e.store.Integrity
  theme : ∀ key t, e.cache.get? key = some t → e.store.themeAt key = .ok t
  others : ∀ q, q ≠ page → ∀ key, e.cache.pageKey? q = some key → ∃ state,
    e.store.target q = .ok (key, state) ∧ e.states.get? q = some state ∧
      (e.cache.get? key).isSome = true

variable {page : String} {key : ThemeKey} {t : ResolvedTheme} {state : ResolutionState}

theorem CoherentApart.unbound (h : e.CoherentApart page) (hpage : e.cache.pageKey? page = none) :
    e.Coherent := by
  refine ⟨h.integrity, h.theme, fun q k hq => h.others q ?_ k hq⟩
  rintro rfl
  rw [hpage] at hq
  cases hq

theorem CoherentApart.bind (h : e.CoherentApart page)
    (htarget : e.store.target page = .ok (key, state)) (ht : e.store.themeAt key = .ok t) :
    Coherent { e with
      cache := e.cache.bind page key t, states := e.states.insert page state } := by
  refine ⟨h.integrity, fun k u hu => ?_, fun q k hq => ?_⟩
  · rw [ThemeCache.get?_bind] at hu
    split_ifs at hu with hk
    · cases hu
      exact hk ▸ ht
    · exact h.theme k u hu
  · rw [ThemeCache.pageKey?_bind] at hq
    split_ifs at hq with hpage
    · cases hq
      subst hpage
      refine ⟨state, htarget, Table.get?_insert_self _ _ _, ?_⟩
      simp [ThemeCache.get?_bind]
    · obtain ⟨state', htarget', hstate', hcached'⟩ := h.others q hpage k hq
      refine ⟨state', htarget', by simp only [Table.get?_insert, if_neg hpage, hstate'], ?_⟩
      rw [ThemeCache.get?_bind]
      split_ifs
      · rfl
      · exact hcached'

/-- Counting a miss and noting a state tells nothing of other pages. -/
theorem Coherent.missed (h : e.Coherent) (page : String) (state : ResolutionState) :
    CoherentApart page
      { e with cache := e.cache.countMiss, states := e.states.insert page state } := by
  refine ⟨h.integrity, by simpa using h.theme, fun q hpage k hq => ?_⟩
  obtain ⟨state', htarget', hstate', hcached'⟩ := h.page q k hq
  exact ⟨state', htarget', by simp only [Table.get?_insert, if_neg hpage, hstate'],
    by simpa using hcached'⟩

theorem CoherentApart.put (h : e.CoherentApart page) (ht : e.store.themeAt key = .ok t) :
    CoherentApart page { e with cache := e.cache.put key t } := by
  refine ⟨h.integrity, fun k u hu => ?_, fun q hpage k hq => ?_⟩
  · rw [ThemeCache.get?_put] at hu
    split_ifs at hu with hk
    · cases hu
      exact hk ▸ ht
    · exact h.theme k u hu
  · rw [ThemeCache.pageKey?_put] at hq
    obtain ⟨state', htarget', hstate', hcached'⟩ := h.others q hpage k hq
    refine ⟨state', htarget', hstate', ?_⟩
    rw [ThemeCache.get?_put]
    split_ifs
    · rfl
    · exact hcached'

theorem defaultResolution_eq_ok (hr : e.defaultResolution = .ok (key, t)) :
    e.themeAt key = .ok t := by
  unfold defaultResolution answered at hr
  split at hr
  · cases hr
  · obtain ⟨u, -, hr⟩ := Except.exists_of_bind hr
    obtain ⟨t', ht, hr⟩ := Except.exists_of_bind hr
    cases hr
    exact ht

theorem Coherent.served {outcome : Except Failure ResolvedTheme} (h : e.Coherent)
    (hs : Served e page outcome e') : e'.Coherent := by
  cases hs with
  | cached found => exact ⟨h.integrity, by simpa using h.theme, by simpa using h.page⟩
  | @resolved key t state missed resolves =>
    obtain ⟨-, htarget, ht⟩ := resolution_eq_ok resolves
    rw [h.themeAt_eq] at ht
    have hbound := (h.missed page .resolving).bind htarget ht
    simpa only [Table.insert_insert] using hbound
  | replaced missed fails notFound found =>
    have ht := defaultResolution_eq_ok found
    rw [h.themeAt_eq] at ht
    refine ((h.missed page .failed).put ht).unbound ?_
    simpa using h.pageKey?_eq_none missed
  | failed missed fails noDefault =>
    exact (h.missed page .failed).unbound (by simpa using h.pageKey?_eq_none missed)

/-! ## Assignments -/

theorem Coherent.apart_of_assignments (h : e.Coherent) (page : String) {s : MemoryStore}
    (hs : s.Integrity) (hthemes : s.themes = e.store.themes)
    (hvariations : s.variations = e.store.variations)
    (hothers : ∀ q, q ≠ page → s.assignments.get? q = e.store.assignments.get? q) :
    CoherentApart page { e with store := s } := by
  have hthemeAt := MemoryStore.themeAt_of_tables hthemes hvariations
  refine ⟨hs, fun k u hu => ?_, fun q hpage k hq => ?_⟩
  · rw [hthemeAt]
    exact h.theme k u hu
  · obtain ⟨state', htarget', hstate', hcached'⟩ := h.page q k hq
    refine ⟨state', ?_, hstate', hcached'⟩
    rw [← htarget']
    simp only [MemoryStore.target, MemoryStore.findDefault, MemoryStore.defaultTheme?, hthemes,
      hothers q hpage]

theorem Coherent.assigned (h : e.Coherent) {target : AssignmentTarget} {s : MemoryStore}
    (stored : e.store.Change (.assign page target) s)
    (leads : target.key page = .ok (key, state)) (found : e.store.themeAt key = .ok t) :
    Coherent { e with
      store := s
      cache := e.cache.bind page key t
      states := e.states.insert page state } := by
  have hs := h.integrity.change stored
  cases stored with
  | nothing reads => cases reads
  | assign =>
    refine (h.apart_of_assignments page hs rfl rfl fun q hq => ?_).bind ?_ found
    · simp only [Table.get?_insert, if_neg hq]
    · simp only [MemoryStore.target, Table.get?_insert_self, leads]

theorem CoherentApart.unbind (h : e.CoherentApart page) :
    Coherent { e with cache := e.cache.unbind page, states := e.states.erase page } := by
  refine ⟨h.integrity, by simpa using h.theme, fun q k hq => ?_⟩
  rw [ThemeCache.pageKey?_unbind] at hq
  split_ifs at hq with hpage
  obtain ⟨state', htarget', hstate', hcached'⟩ := h.others q hpage k hq
  exact ⟨state', htarget', by simp only [Table.get?_erase, if_neg hpage, hstate'],
    by simpa using hcached'⟩

theorem Coherent.unassigned (h : e.Coherent) {s : MemoryStore}
    (stored : e.store.Change (.deleteAssignment page) s) :
    Coherent { e with
      store := s, cache := e.cache.unbind page, states := e.states.erase page } := by
  have hs := h.integrity.change stored
  cases stored with
  | nothing reads => cases reads
  | deleteAssignment =>
    refine (h.apart_of_assignments page hs rfl rfl fun q hq => ?_).unbind
    simp only [Table.get?_erase, if_neg hq]

/-! ## Dropping -/

theorem Coherent.drop (h : e.Coherent) (key : ThemeKey) :
    Coherent { e with cache := e.cache.drop key } := by
  refine ⟨h.integrity, fun k u hu => ?_, fun q k hq => ?_⟩
  · rw [ThemeCache.get?_drop] at hu
    split_ifs at hu
    exact h.theme k u hu
  · rw [ThemeCache.pageKey?_drop, Option.filter_eq_some_iff] at hq
    obtain ⟨hq, hk⟩ := hq
    obtain ⟨state', htarget', hstate', hcached'⟩ := h.page q k hq
    refine ⟨state', htarget', hstate', ?_⟩
    rw [ThemeCache.get?_drop, if_neg (by simpa using hk)]
    exact hcached'

theorem Coherent.apart (h : e.Coherent) (page : String) : e.CoherentApart page :=
  ⟨h.integrity, h.theme, fun q _ => h.page q⟩

theorem Coherent.dropped (h : e.Coherent) (page : String) :
    Coherent { e with cache := dropPage e.cache page, states := e.states.erase page } := by
  unfold dropPage
  cases e.cache.pageKey? page with
  | none => exact (h.apart page).unbind
  | some key => exact ((h.drop key).apart page).unbind

/-- Where nothing is cached, there is nothing to agree with. -/
theorem coherent_cleared (h : e.store.Integrity) : e.cleared.Coherent :=
  ⟨h, by simp [cleared], by simp [cleared]⟩

/-! ## The theme graph -/

/-- Every theme of a store is found in another one, and every page has its key there. -/
structure Extends (s s' : MemoryStore) : Prop where
  theme : ∀ key t, s.themeAt key = .ok t → s'.themeAt key = .ok t
  target : ∀ page r, s.target page = .ok r → s'.target page = .ok r

theorem Coherent.extend (h : e.Coherent) {s : MemoryStore} (hs : s.Integrity)
    (hext : Extends e.store s) : Coherent { e with store := s } := by
  refine ⟨hs, fun k u hu => hext.theme k u (h.theme k u hu), fun q k hq => ?_⟩
  obtain ⟨state', htarget', hstate', hcached'⟩ := h.page q k hq
  exact ⟨state', hext.target q _ htarget', hstate', hcached'⟩

/-- Records that are only added keep what was there. -/
theorem extends_of_tables {s s' : MemoryStore} (hs : s.Integrity) (hs' : s'.Integrity)
    (hassignments : s'.assignments = s.assignments)
    (hthemes : ∀ id u, s.themes.get? id = some u → s'.themes.get? id = some u)
    (hvariations : ∀ id v, s.variations.get? id = some v → s'.variations.get? id = some v) :
    Extends s s' where
  theme k u hu := by
    cases k with
    | theme id =>
      obtain ⟨w, hw, rfl⟩ := MemoryStore.themeAt_theme_eq_ok_iff.1 hu
      exact MemoryStore.themeAt_theme_eq_ok_iff.2 ⟨w, hthemes id w hw, rfl⟩
    | variation id =>
      obtain ⟨v, parent, hv, hparent, rfl⟩ := MemoryStore.themeAt_variation_eq_ok_iff.1 hu
      exact MemoryStore.themeAt_variation_eq_ok_iff.2
        ⟨v, parent, hvariations id v hv, hthemes _ parent hparent, rfl⟩
  target q r hr := by
    obtain ⟨k, state'⟩ := r
    rw [MemoryStore.target_eq_ok_iff, hassignments]
    refine (MemoryStore.target_eq_ok_iff.1 hr).imp_right fun ⟨hnone, u, hu, hk⟩ => ?_
    obtain ⟨hu, hd⟩ := hs.findDefault_eq_ok_iff.1 hu
    exact ⟨hnone, u, hs'.findDefault_eq_ok_iff.2 ⟨hthemes _ u hu, hd⟩, hk⟩

theorem Coherent.createdTheme (h : e.Coherent) {draft : ThemeDraft} {s : MemoryStore}
    (stored : e.store.Change (.createTheme draft) s) (ordinary : draft.isDefault = false) :
    Coherent { e with store := s } := by
  have hs := h.integrity.change stored
  refine h.extend hs ?_
  cases stored with
  | nothing reads => cases reads
  | createTheme d next named unused =>
    subst next named
    refine extends_of_tables h.integrity hs rfl (fun id u hu => ?_) fun _ _ hv => hv
    have hid := MemoryStore.theme_ne_of_free (e.store.hasId_freshNumber "theme") hu
    simp only [Table.get?_insert, if_neg hid, MemoryStore.demoted, ordinary, Bool.false_eq_true,
      if_false, hu]

theorem Coherent.createdVariation (h : e.Coherent) {parentId : String} {draft : VariationDraft}
    {s : MemoryStore} (stored : e.store.Change (.createVariation parentId draft) s) :
    Coherent { e with store := s } := by
  have hs := h.integrity.change stored
  refine h.extend hs ?_
  cases stored with
  | nothing reads => cases reads
  | createVariation d next named found unused =>
    subst next named
    refine extends_of_tables h.integrity hs rfl (fun _ _ hu => hu) fun id v hv => ?_
    have hid := MemoryStore.variation_ne_of_free (e.store.hasId_freshNumber "variation") hv
    simp only [Table.get?_insert, if_neg hid, hv]

/-- What does not belong to the family of a theme is the same in another store. -/
structure SameApart (id : String) (s s' : MemoryStore) : Prop where
  assignments : s'.assignments = s.assignments
  themes : ∀ q, q ≠ id → s'.themes.get? q = s.themes.get? q
  variations : ∀ q v, s.variations.get? q = some v → v.parentId ≠ id →
    s'.variations.get? q = some v

theorem sameApart_updateTheme {s s' : MemoryStore} {id : String} {patch : ThemePatch}
    (hc : s.Change (.updateTheme id patch) s') : SameApart id s s' := by
  cases hc with
  | nothing reads => cases reads
  | updateTheme p found custom =>
    refine ⟨rfl, fun q hq => ?_, fun _ _ hv _ => hv⟩
    simp only [Table.get?_insert, if_neg hq]

theorem sameApart_deleteTheme {s s' : MemoryStore} {id : String}
    (hc : s.Change (.deleteTheme id) s') : SameApart id s s' := by
  cases hc with
  | nothing reads => cases reads
  | deleteTheme found custom ordinary =>
    refine ⟨rfl, fun q hq => ?_, fun q v hv hparent => ?_⟩
    · simp only [Table.get?_erase, if_neg hq]
    · simp [Table.get?_filter, hv, Option.filter, hparent]

theorem SameApart.themeAt {s s' : MemoryStore} {id : String} (h : SameApart id s s')
    (ht : s.themeAt key = .ok t) (hfamily : ThemeCache.isFamily id key t = false) :
    s'.themeAt key = .ok t := by
  cases key with
  | theme q =>
    obtain ⟨u, hu, rfl⟩ := MemoryStore.themeAt_theme_eq_ok_iff.1 ht
    have hne : q ≠ id := by simpa [ThemeCache.isFamily] using hfamily
    exact MemoryStore.themeAt_theme_eq_ok_iff.2 ⟨u, (h.themes q hne).trans hu, rfl⟩
  | variation q =>
    obtain ⟨v, parent, hv, hparent, rfl⟩ := MemoryStore.themeAt_variation_eq_ok_iff.1 ht
    have hne : v.parentId ≠ id := by
      simpa [ThemeCache.isFamily, Variation.resolved] using hfamily
    exact MemoryStore.themeAt_variation_eq_ok_iff.2
      ⟨v, parent, h.variations q v hv hne, (h.themes _ hne).trans hparent, rfl⟩

theorem SameApart.target {s s' : MemoryStore} {id : String} (h : SameApart id s s')
    (hs : s.Integrity) (hs' : s'.Integrity) (htarget : s.target page = .ok (key, state))
    (hfamily : ThemeCache.isFamily id key t = false) : s'.target page = .ok (key, state) := by
  rw [MemoryStore.target_eq_ok_iff, h.assignments]
  refine (MemoryStore.target_eq_ok_iff.1 htarget).imp_right ?_
  rintro ⟨hnone, u, hu, rfl, hdefault⟩
  obtain ⟨hu, hmark⟩ := hs.findDefault_eq_ok_iff.1 hu
  have hne : u.id ≠ id := by simpa [ThemeCache.isFamily] using hfamily
  exact ⟨hnone, u, hs'.findDefault_eq_ok_iff.2 ⟨(h.themes _ hne).trans hu, hmark⟩, rfl, hdefault⟩

/-- **A changed theme takes its family along.** What is left in the cache comes from other themes,
and those are as they were. -/
theorem Coherent.invalidated (h : e.Coherent) {s : MemoryStore} (hs : s.Integrity) {id : String}
    (hsame : SameApart id e.store s) : Coherent (invalidateFamily id { e with store := s }).2 := by
  have hcache : ∀ k u, (e.cache.dropFamily id).get? k = some u ↔
      e.cache.get? k = some u ∧ ThemeCache.isFamily id k u = false := by
    intro k u
    rw [ThemeCache.get?_dropFamily, Option.filter_eq_some_iff]
    simp
  refine ⟨hs, fun k u hu => ?_, fun q k hq => ?_⟩
  · obtain ⟨hu, hfamily⟩ := (hcache k u).1 hu
    exact hsame.themeAt (h.theme k u hu) hfamily
  · have hq' : (e.cache.dropFamily id).pageKey? q = some k := hq
    rw [ThemeCache.pageKey?_dropFamily, Option.filter_eq_some_iff] at hq'
    obtain ⟨hbound, hk⟩ := hq'
    obtain ⟨state', htarget', hstate', hcached'⟩ := h.page q k hbound
    obtain ⟨u, hu⟩ := Option.isSome_iff_exists.1 hcached'
    have hfamily : ThemeCache.isFamily id k u = false :=
      eq_false_of_ne_true fun hin => by
        simp [(e.cache.mem_family k id).2 ⟨u, hu, hin⟩] at hk
    refine ⟨state', hsame.target h.integrity hs htarget' hfamily, ?_, ?_⟩
    · show (e.states.filter fun page _ =>
        ((e.cache.dropFamily id).pageKey? page).isSome).get? q = some state'
      rw [Table.get?_filter, hstate', Option.filter_eq_some_iff]
      have hsome : ((e.cache.dropFamily id).pageKey? q).isSome = true := by
        rw [show (e.cache.dropFamily id).pageKey? q = some k from hq]
        rfl
      exact ⟨rfl, hsome⟩
    · show ((e.cache.dropFamily id).get? k).isSome = true
      rw [(hcache k u).2 ⟨hu, hfamily⟩]
      rfl

theorem Coherent.updatedTheme (h : e.Coherent) {id : String} {patch : ThemePatch} {s : MemoryStore}
    (stored : e.store.Change (.updateTheme id patch) s) :
    Coherent (invalidateFamily id { e with store := s }).2 :=
  h.invalidated (h.integrity.change stored) (sameApart_updateTheme stored)

theorem Coherent.deletedTheme (h : e.Coherent) {id : String} {s : MemoryStore}
    (stored : e.store.Change (.deleteTheme id) s) :
    Coherent (invalidateFamily id { e with store := s }).2 :=
  h.invalidated (h.integrity.change stored) (sameApart_deleteTheme stored)

/-- No theme shows whether it is the default. -/
theorem themeAt_setDefaultTheme {s s' : MemoryStore} {id : String}
    (hc : s.Change (.setDefaultTheme id) s') (key : ThemeKey) : s'.themeAt key = s.themeAt key := by
  cases hc with
  | nothing reads => cases reads
  | setDefaultTheme found =>
    cases key with
    | theme q =>
      simp only [MemoryStore.themeAt, MemoryStore.findTheme, Table.get?_map]
      cases s.themes.get? q <;> rfl
    | variation q =>
      simp only [MemoryStore.themeAt, MemoryStore.findVariation]
      cases s.variations.get? q with
      | none => rfl
      | some v =>
        simp only [Except.bind_of_ok, MemoryStore.findTheme, Table.get?_map]
        cases s.themes.get? v.parentId <;> rfl

/-- **A new default theme unbinds the pages that had the old one.** The pages that stay bound are
assigned to something. -/
theorem Coherent.madeDefault (h : e.Coherent) {id : String} {s : MemoryStore}
    (stored : e.store.Change (.setDefaultTheme id) s) :
    Coherent (forgetDefaulted { e with store := s }).2 := by
  have hs := h.integrity.change stored
  have hthemeAt := themeAt_setDefaultTheme stored
  cases stored with
  | nothing reads => cases reads
  | @setDefaultTheme _ t found =>
    refine ⟨hs, fun k u hu => ?_, fun q k hq => ?_⟩
    · exact (hthemeAt k).trans (h.theme k u (by cases k <;> exact hu))
    · have hq' : (e.cache.pages.filter fun page _ =>
          !(e.states.get? page == some .byDefault)).get? q = some k := hq
      rw [Table.get?_filter, Option.filter_eq_some_iff] at hq'
      obtain ⟨hbound, hstays⟩ := hq'
      obtain ⟨state', htarget', hstate', hcached'⟩ := h.page q k hbound
      rw [hstate'] at hstays
      have hne : state' ≠ .byDefault := by
        rintro rfl
        simp at hstays
      refine ⟨state', ?_, ?_, by cases k <;> exact hcached'⟩
      · show MemoryStore.target _ q = _
        rw [MemoryStore.target_eq_ok_iff]
        rcases MemoryStore.target_eq_ok_iff.1 htarget' with hassigned | ⟨-, _, -, -, hdefault⟩
        · exact .inl hassigned
        · exact absurd hdefault hne
      · show (e.states.filter fun page _ =>
          !(e.states.get? page == some .byDefault)).get? q = some state'
        rw [Table.get?_filter, hstate', Option.filter_eq_some_iff]
        exact ⟨rfl, by simpa [hstate'] using hne⟩

/-! ## Runs -/

theorem Coherent.quiet (h : e.Coherent) (hq : Quiet e e') : e'.Coherent := by
  cases hq with
  | served serves => exact h.served serves
  | announced => exact ⟨h.integrity, h.theme, h.page⟩
  | dropped page => exact h.dropped page
  | cleared => exact coherent_cleared h.integrity

theorem Coherent.edit {edit : StoreCall} (h : e.Coherent) (he : Edit e edit e') :
    e'.Coherent := by
  cases he with
  | assign stored leads found known => exact h.assigned stored leads found
  | deleteAssignment stored => exact h.unassigned stored
  | createTheme stored ordinary => exact h.createdTheme stored ordinary
  | createVariation stored => exact h.createdVariation stored
  | updateTheme stored => exact h.updatedTheme stored
  | deleteTheme stored => exact h.deletedTheme stored
  | setDefaultTheme stored => exact h.madeDefault stored
  | setOffline offline =>
    have hs := h.integrity.change (.setOffline offline)
    exact ⟨hs, fun k u hu => by cases k <;> exact h.theme _ u hu, h.page⟩

theorem Coherent.perform (h : e.Coherent) (call : EngineCall) :
    (ThemeEngine.perform call e).2.Coherent := by
  rcases made_perform h.integrity call with quiet | ⟨-, edits, quiet⟩
  · exact quiet.induction Coherent.quiet h
  · exact quiet.induction Coherent.quiet (h.edit edits)

theorem Coherent.run (h : e.Coherent) (calls : List EngineCall) : (runCalls calls e).Coherent :=
  runCalls_induction (fun call _ _ h => h.perform call) h

/-! ## The theme of a page -/

theorem Coherent.defaultResolution_eq (h : e.Coherent) (online : e.store.offline = false) :
    e.defaultResolution =
      match e.store.defaultTheme? with
      | some u => .ok (.theme u.id, u.resolved)
      | none => .error (.notFound .defaultTheme "is_default") := by
  simp only [defaultResolution, answered, online, Bool.false_eq_true, if_false, h.themeAt_eq,
    MemoryStore.findDefault]
  cases hd : e.store.defaultTheme? with
  | none => rfl
  | some u =>
    have ht : e.store.themeAt (.theme u.id) = .ok u.resolved :=
      MemoryStore.themeAt_theme_eq_ok_iff.2 ⟨u, h.integrity.get?_defaultTheme hd, rfl⟩
    simp only [Except.bind_of_ok, ht]
    rfl

theorem themeOf_eq_ok {s : MemoryStore} (htarget : s.target page = .ok (key, state))
    (ht : s.themeAt key = .ok t) (fallback : Option ResolvedTheme) :
    s.themeOf fallback page = .ok t := by
  simp [MemoryStore.themeOf, MemoryStore.chosenTheme, htarget, ht]

/-- **A page that is served has the theme that the store gives it.** -/
theorem Coherent.served_eq_themeOf (h : e.Coherent) (online : e.store.offline = false)
    {outcome : Except Failure ResolvedTheme} (hs : Served e page outcome e') :
    outcome = e.store.themeOf e.fallback page := by
  cases hs with
  | @cached t found =>
    obtain ⟨key, hkey, ht⟩ := e.cache.pageKey?_of_pageTheme? page t found
    obtain ⟨state, htarget, -, -⟩ := h.page page key hkey
    exact (themeOf_eq_ok htarget (h.theme key t ht) e.fallback).symm
  | @resolved key t state missed resolves =>
    obtain ⟨-, htarget, ht⟩ := resolution_eq_ok resolves
    rw [h.themeAt_eq] at ht
    exact (themeOf_eq_ok htarget ht e.fallback).symm
  | @replaced failure key t missed fails notFound found =>
    have hchosen := resolution_eq_error online fails
    rw [h.defaultResolution_eq online] at found
    cases hd : e.store.defaultTheme? with
    | none => simp [hd] at found
    | some u =>
      simp only [hd, Except.ok.injEq, Prod.mk.injEq] at found
      simp only [MemoryStore.themeOf, hchosen, MemoryStore.standIn, hd, found.2]
  | @failed failure missed fails noDefault =>
    have hchosen := resolution_eq_error online fails
    obtain ⟨cause, hcause⟩ := noDefault (MemoryStore.isNotFound_of_chosenTheme hchosen)
    rw [h.defaultResolution_eq online] at hcause
    cases hd : e.store.defaultTheme? with
    | some u => simp [hd] at hcause
    | none =>
      simp only [MemoryStore.themeOf, hchosen, MemoryStore.standIn, hd, lastResort]
      cases e.fallback <;> rfl

theorem Coherent.pageTheme_fst (h : e.Coherent) (online : e.store.offline = false)
    (page : String) : (pageTheme page e).1 = e.store.themeOf e.fallback page :=
  h.served_eq_themeOf online (served_pageTheme h.integrity page)

theorem coherent_new {s : MemoryStore} (hs : s.Integrity) (fallback : Option ResolvedTheme) :
    Coherent { store := s, fallback } where
  integrity := hs
  theme := by
    rintro (id | id) t ht <;> cases ht
  page := by
    intro page key hkey
    cases hkey

theorem Reachable.coherent (h : e.Reachable) : e.Coherent := by
  induction h with
  | opened opened fallback => exact coherent_new (MemoryStore.integrity_opened opened) fallback
  | call h call ih => exact ih.perform call

end ThemedPages.ThemeEngine
