import ThemedPages.Proofs.Store.Default

/-!
# Listings of themes

A listing of the store goes through its themes, keeps those that are asked for, gives each its
variations, and sorts. Sorting loses nothing and repeats nothing, and no two themes have one name,
so the order in which themes are listed is strict.

**Theorem (`listThemes_listed`).** A filter lists just the themes that it asks for, each once and in
order, and each with all of its variations by id, or with none if they are not asked for.

That every variation stands in just one listing needs two relations of the tables: its parent is
there, and so it is listed, and no two themes have one id, so that no other listing claims it.
-/

namespace ThemedPages

/-- A filter asks for a theme: it has the category, if one is given, and it is a system theme if
the others are left out. -/
structure ThemeFilter.AsksFor (f : ThemeFilter) (t : Theme) : Prop where
  category : ∀ c, f.category = some c → t.category = c
  custom : f.includeCustom = true ∨ t.isSystem = true

/-- One theme is listed before another: system themes come first, and then the name counts. -/
def Theme.ListedBefore (t u : Theme) : Prop :=
  (t.isSystem = true ∧ u.isSystem = false) ∨ (t.isSystem = u.isSystem ∧ t.name < u.name)

/-- A theme is listed with just the given variations, by id. -/
def ThemeListing.Carries (l : ThemeListing) (given : Variation → Prop) : Prop :=
  ∃ vs : List Variation, l.variations = vs.map Variation.summary ∧
    vs.Pairwise (fun v w => v.id < w.id) ∧ ∀ v, v ∈ vs ↔ given v

theorem ThemeFilter.accepts_iff (f : ThemeFilter) (t : Theme) :
    f.accepts t = true ↔ f.AsksFor t := by
  rw [accepts, Bool.and_eq_true, Bool.or_eq_true]
  constructor
  · rintro ⟨hcategory, hcustom⟩
    refine ⟨fun c hc => ?_, hcustom⟩
    rw [hc, Option.all_some, beq_iff_eq] at hcategory
    exact hcategory.symm
  · rintro ⟨hcategory, hcustom⟩
    refine ⟨?_, hcustom⟩
    cases hc : f.category with
    | none => rfl
    | some c => rw [Option.all_some, hcategory c hc, beq_self_eq_true]

namespace MemoryStore

variable {snapshot : StoreSnapshot} {s : MemoryStore} {f : ThemeFilter} {t : Theme}
  {l : ThemeListing}

/-! ## Order -/

theorem listsBefore_trans (a b c : ThemeListing) (hab : listsBefore a b = true)
    (hbc : listsBefore b c = true) : listsBefore a c = true := by
  simp only [listsBefore, Bool.or_eq_true, Bool.and_eq_true, Bool.not_eq_true', beq_iff_eq,
    decide_eq_true_eq] at *
  rcases hab with ⟨ha, hb⟩ | ⟨hab, hname⟩
  · rcases hbc with ⟨hb', -⟩ | ⟨hbc, -⟩
    · rw [hb] at hb'
      nomatch hb'
    · exact .inl ⟨ha, hbc ▸ hb⟩
  · rcases hbc with ⟨hb, hc⟩ | ⟨hbc, hname'⟩
    · exact .inl ⟨hab.trans hb, hc⟩
    · exact .inr ⟨hab.trans hbc, String.le_trans hname hname'⟩

theorem listsBefore_total (a b : ThemeListing) :
    (listsBefore a b || listsBefore b a) = true := by
  have hname := String.le_total a.theme.name b.theme.name
  unfold listsBefore
  cases a.theme.isSystem with
  | false => cases b.theme.isSystem <;> simp [hname]
  | true => cases b.theme.isSystem <;> simp [hname]

/-- Themes with different names are not listed side by side in either order. -/
theorem listedBefore_of_listsBefore {a b : ThemeListing} (h : listsBefore a b = true)
    (hname : a.theme.name ≠ b.theme.name) : a.theme.ListedBefore b.theme := by
  simp only [listsBefore, Bool.or_eq_true, Bool.and_eq_true, Bool.not_eq_true', beq_iff_eq,
    decide_eq_true_eq] at h
  rcases h with hsystem | ⟨hsystem, hle⟩
  · exact .inl hsystem
  · refine .inr ⟨hsystem, ?_⟩
    by_contra hlt
    exact hname (String.le_antisymm hle (String.not_lt.1 hlt))

/-- No theme is listed before itself. -/
theorem not_listedBefore_self (t : Theme) : ¬t.ListedBefore t := by
  rintro (⟨hsystem, hother⟩ | ⟨-, hlt⟩)
  · rw [hsystem] at hother
    nomatch hother
  · exact String.lt_irrefl t.name hlt

/-! ## Themes that are listed -/

theorem mem_listings_iff :
    l ∈ s.listings f ↔ ∃ t ∈ s.themes.values, f.AsksFor t ∧ s.listing f t = l := by
  simp only [listings, List.mem_mergeSort, List.mem_map, List.mem_filter, f.accepts_iff, and_assoc]

/-- **Just the themes that are asked for.** -/
theorem mem_theme_listings_iff :
    t ∈ (s.listings f).map ThemeListing.theme ↔ t ∈ s.themes.values ∧ f.AsksFor t := by
  rw [List.mem_map]
  constructor
  · rintro ⟨l, hl, rfl⟩
    obtain ⟨t, ht, hasks, rfl⟩ := mem_listings_iff.1 hl
    exact ⟨ht, hasks⟩
  · rintro ⟨ht, hasks⟩
    exact ⟨s.listing f t, mem_listings_iff.2 ⟨t, ht, hasks, rfl⟩, rfl⟩

/-- **The order of the listings is strict.** -/
theorem Integrity.pairwise_listings (h : s.Integrity) (f : ThemeFilter) :
    ((s.listings f).map ThemeListing.theme).Pairwise Theme.ListedBefore := by
  have hordered : (s.listings f).Pairwise fun a b => listsBefore a b = true :=
    List.pairwise_mergeSort listsBefore_trans listsBefore_total _
  have hnames : (s.listings f).Pairwise fun a b => a.theme.name ≠ b.theme.name := by
    have hunsorted : ((s.themes.values.filter f.accepts).map (s.listing f)).Pairwise
        fun a b => a.theme.name ≠ b.theme.name :=
      List.pairwise_map.2 ((List.pairwise_map.1 h.theme_names.nodup).filter _)
    exact hunsorted.perm (List.mergeSort_perm _ _).symm fun hne => hne.symm
  refine List.pairwise_map.2 (hordered.imp₂ ?_ hnames)
  intro a b hle hne
  exact listedBefore_of_listsBefore hle hne

/-! ## Their variations -/

theorem Integrity.pairwise_variations (h : s.Integrity) :
    s.variations.values.Pairwise fun v w => v.id < w.id := by
  refine List.pairwise_map.2 (s.variations.sorted.imp_of_mem fun {a b} ha hb hlt => ?_)
  rw [h.variation_id a.1 a.2 ((Table.mem_entries_iff _ _ _).1 ha),
    h.variation_id b.1 b.2 ((Table.mem_entries_iff _ _ _).1 hb)]
  exact hlt

/-- A listing with variations carries those of its theme. -/
theorem Integrity.carries_listing (h : s.Integrity) (hf : f.includeVariations = true)
    (t : Theme) :
    (s.listing f t).Carries fun v => v ∈ s.variations.values ∧ v.parentId = t.id := by
  refine ⟨s.variations.values.filter fun v => v.parentId == t.id, ?_,
    h.pairwise_variations.filter _, fun v => ?_⟩
  · rw [listing, hf, if_pos rfl]
  · rw [List.mem_filter, beq_iff_eq]

/-- What a listing carries, it carries once. -/
theorem count_summary {given : Variation → Prop} (h : l.Carries given) {v : Variation}
    (hv : given v) : l.variations.count v.summary = 1 := by
  obtain ⟨vs, hvs, hordered, hmem⟩ := h
  rw [hvs]
  refine List.count_eq_one_of_mem (List.pairwise_map.2 (hordered.imp ?_))
    (List.mem_map_of_mem ((hmem v).2 hv))
  intro a b hlt hsummary
  have hid : a.id = b.id := congrArg VariationSummary.id hsummary
  exact String.lt_irrefl b.id (hid ▸ hlt)

/-- A variation is known by its summary, which has its id. -/
theorem Integrity.eq_of_summary_eq (h : s.Integrity) {v w : Variation}
    (hv : v ∈ s.variations.values) (hw : w ∈ s.variations.values)
    (hsummary : v.summary = w.summary) : v = w := by
  obtain ⟨k, hv⟩ := (Table.mem_values_iff _ _).1 hv
  obtain ⟨k', hw⟩ := (Table.mem_values_iff _ _).1 hw
  have hid : v.id = w.id := congrArg VariationSummary.id hsummary
  rw [h.variation_id k v hv, h.variation_id k' w hw] at hid
  rw [hid, hw] at hv
  exact (Option.some.inj hv).symm

theorem Integrity.eq_of_id_eq (h : s.Integrity) {t u : Theme} (ht : t ∈ s.themes.values)
    (hu : u ∈ s.themes.values) (hid : t.id = u.id) : t = u := by
  obtain ⟨k, ht⟩ := (Table.mem_values_iff _ _).1 ht
  obtain ⟨k', hu⟩ := (Table.mem_values_iff _ _).1 hu
  rw [h.theme_id k t ht, h.theme_id k' u hu] at hid
  rw [hid, hu] at ht
  exact (Option.some.inj ht).symm

/-- **A variation stands in the listing of its parent**, once, and in no other. -/
theorem Integrity.exists_listing (h : s.Integrity) {v : Variation}
    (hv : v ∈ s.variations.values) :
    ∃ l ∈ s.listings .all, l.theme.id = v.parentId ∧ l.variations.count v.summary = 1 ∧
      ∀ l' ∈ s.listings .all, v.summary ∈ l'.variations → l' = l := by
  obtain ⟨id, hrow⟩ := (Table.mem_values_iff _ _).1 hv
  obtain ⟨t, ht⟩ := h.parent id v hrow
  have hid : t.id = v.parentId := h.theme_id _ t ht
  have hthere : t ∈ s.themes.values := (Table.mem_values_iff _ _).2 ⟨_, ht⟩
  refine ⟨s.listing .all t, mem_listings_iff.2 ⟨t, hthere, ⟨nofun, .inl rfl⟩, rfl⟩, hid,
    count_summary (h.carries_listing rfl t) ⟨hv, hid.symm⟩, ?_⟩
  intro l' hl' hmem
  obtain ⟨u, hu, -, rfl⟩ := mem_listings_iff.1 hl'
  obtain ⟨vs, hvs, -, hgiven⟩ := h.carries_listing (f := .all) rfl u
  rw [hvs] at hmem
  obtain ⟨w, hw, hsummary⟩ := List.mem_map.1 hmem
  obtain ⟨hw, hparent⟩ := (hgiven w).1 hw
  have hwv : w = v := h.eq_of_summary_eq hw hv hsummary
  have hut : u = t := h.eq_of_id_eq hu hthere (by rw [hid, ← hparent, hwv])
  rw [hut]

/-! ## Reachable stores -/

/-- **Themes are listed completely and in order.** -/
theorem listThemes_listed (h : Opened snapshot s) (calls : List StoreCall) {final : MemoryStore}
    (hfinal : runCalls calls s = final) (online : final.offline = false) :
    (∀ f, ∃ listings, ThemeStore.listThemes f final = (.ok listings, final) ∧
      (∀ t, t ∈ listings.map ThemeListing.theme ↔ t ∈ final.themes.values ∧ f.AsksFor t) ∧
      (listings.map ThemeListing.theme).Nodup ∧
      (listings.map ThemeListing.theme).Pairwise Theme.ListedBefore ∧
      ∀ l ∈ listings,
        (f.includeVariations = true →
          l.Carries fun v => v ∈ final.variations.values ∧ v.parentId = l.theme.id) ∧
        (f.includeVariations = false → l.variations = [])) ∧
    ∃ listings, ThemeStore.listThemes .all final = (.ok listings, final) ∧
      ∀ v ∈ final.variations.values, ∃ l ∈ listings, l.theme.id = v.parentId ∧
        l.variations.count v.summary = 1 ∧ ∀ l' ∈ listings, v.summary ∈ l'.variations → l' = l := by
  have hintegrity : final.Integrity := hfinal ▸ (integrity_opened h).run calls
  have hlists : ∀ f, ThemeStore.listThemes f final = (.ok (final.listings f), final) := by
    intro f
    show read "list_themes" (·.listings f) final = _
    rw [read, online, if_neg Bool.false_ne_true]
  refine ⟨fun f => ⟨_, hlists f, fun t => mem_theme_listings_iff, ?_,
    hintegrity.pairwise_listings f, ?_⟩, _, hlists .all, fun v hv => hintegrity.exists_listing hv⟩
  · refine (hintegrity.pairwise_listings f).imp ?_
    intro t u hbefore heq
    exact not_listedBefore_self u (heq ▸ hbefore)
  · intro l hl
    obtain ⟨t, -, -, rfl⟩ := mem_listings_iff.1 hl
    refine ⟨fun hf => hintegrity.carries_listing hf t, fun hf => ?_⟩
    rw [listing, hf, if_neg Bool.false_ne_true]

theorem listThemes_listed_lightAndDark :
    ∃ s final, Opened lightAndDark s ∧
      runCalls [.createTheme plainDraft, .setDefaultTheme "dark"] s = final ∧
      final.offline = false ∧ final.variations.values.map Variation.id = ["dusk"] ∧
      ∃ listings, ThemeStore.listThemes .all final = (.ok listings, final) ∧
        (∀ t ∈ final.themes.values, t ∈ listings.map ThemeListing.theme) ∧
        (listings.map ThemeListing.theme).Pairwise Theme.ListedBefore ∧
        ∀ v ∈ final.variations.values, ∃ l ∈ listings, l.theme.id = "dark" ∧
          l.variations.count v.summary = 1 ∧
          ∀ l' ∈ listings, v.summary ∈ l'.variations → l' = l := by
  obtain ⟨s, hs⟩ : ∃ s, ofSnapshot lightAndDark = .ok s := ⟨_, rfl⟩
  obtain ⟨final, hfinal⟩ : ∃ final,
      runCalls [.createTheme plainDraft, .setDefaultTheme "dark"] s = final := ⟨_, rfl⟩
  have online : final.offline = false := by
    rw [← hfinal]
    cases hs
    decide
  have hids : final.variations.values.map Variation.id = ["dusk"] := by
    rw [← hfinal]
    cases hs
    decide
  have hparents : ∀ v ∈ final.variations.values, v.parentId = "dark" := by
    rw [← hfinal]
    cases hs
    decide
  obtain ⟨hall, listings, hlists, hvariations⟩ :=
    listThemes_listed (.loaded hs) _ hfinal online
  obtain ⟨listings', hlists', hthemes, -, hordered, -⟩ := hall .all
  cases hlists.symm.trans hlists'
  refine ⟨s, final, .loaded hs, hfinal, online, hids, listings, hlists,
    fun t ht => (hthemes t).2 ⟨ht, nofun, .inl rfl⟩, hordered, fun v hv => ?_⟩
  obtain ⟨l, hl, hid, honce⟩ := hvariations v hv
  exact ⟨l, hl, hid.trans (hparents v hv), honce⟩

end MemoryStore

end ThemedPages
