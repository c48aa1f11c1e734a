import ThemedPages.Proofs.Engine.Creation
import ThemedPages.Proofs.Store.Default

/-!
# What changes of the store show on a page

A page shows its own theme, the one that its assignment leads to. If it has none it shows the
default theme, and if there is no default theme it shows the fallback.

**Theorem (`showsOn_change`).** A change of the store shows on a page only if it is an assignment of
this page or its removal; or it changes or deletes a theme, and the page had this theme or a
variation of it; or it makes another theme the default, and the page has no theme of its own; or it
creates a record, which is what the page is assigned to already.
-/

namespace ThemedPages

/-- A resolved theme is a given theme, or it comes from a variation of it. -/
def ResolvedTheme.BelongsTo (t : ResolvedTheme) (id : String) : Prop :=
  match t.origin with
  | .theme => t.id = id
  | .variation => t.parentId = some id

namespace MemoryStore

/-- The theme that a page has by its assignment. -/
def ownTheme? (s : MemoryStore) (page : String) : Option ResolvedTheme :=
  (s.assignments.get? page).bind fun _ => (s.chosenTheme page).toOption

/-- The theme that a page shows, if it shows any. -/
def shown (s : MemoryStore) (fallback : Option ResolvedTheme) (page : String) :
    Option ResolvedTheme :=
  (s.themeOf fallback page).toOption

variable {s s' : MemoryStore} {call : StoreCall} {fallback : Option ResolvedTheme}
  {id page : String} {t : ResolvedTheme}

/-! ## Where the theme of a page comes from -/

theorem ownTheme?_eq_some_iff : s.ownTheme? page = some t ↔ ∃ a key state,
    s.assignments.get? page = some a ∧ a.target.key page = .ok (key, state) ∧
      s.themeAt key = .ok t := by
  unfold ownTheme? chosenTheme target
  cases ha : s.assignments.get? page with
  | none => simp
  | some a =>
    cases hkey : a.target.key page with
    | error failure => simp [hkey, Except.toOption]
    | ok r =>
      obtain ⟨key, state⟩ := r
      cases ht : s.themeAt key <;> simp [hkey, ht, Except.toOption]

/-- **Three places**: the own theme of a page, or else the default theme, or else the fallback. -/
theorem Integrity.shown_eq (h : s.Integrity) (fallback : Option ResolvedTheme) (page : String) :
    s.shown fallback page =
      (s.ownTheme? page).or ((s.defaultTheme?.map Theme.resolved).or fallback) := by
  have hstandIn : ∀ failure, (s.standIn fallback failure).toOption =
      (s.defaultTheme?.map Theme.resolved).or fallback := by
    intro failure
    unfold standIn
    cases s.defaultTheme? <;> cases fallback <;> rfl
  unfold shown themeOf ownTheme?
  cases ha : s.assignments.get? page with
  | some a =>
    cases s.chosenTheme page with
    | ok t => rfl
    | error failure => exact hstandIn failure
  | none =>
    cases hd : s.defaultTheme? with
    | none =>
      have hchosen : s.chosenTheme page = .error (.notFound .defaultTheme "is_default") := by
        simp [chosenTheme, target, ha, findDefault, hd]
      rw [hchosen]
      exact (hstandIn _).trans (by rw [hd]; rfl)
    | some d =>
      have found : s.themeAt (.theme d.id) = .ok d.resolved :=
        themeAt_theme_eq_ok_iff.2 ⟨d, h.get?_defaultTheme hd, rfl⟩
      have hchosen : s.chosenTheme page = .ok d.resolved := by
        simpa [chosenTheme, target, ha, findDefault, hd, pure, Except.pure] using found
      rw [hchosen]
      rfl

theorem Integrity.shown_congr (h : s.Integrity) (h' : s'.Integrity)
    (own : s'.ownTheme? page = s.ownTheme? page) (default : s'.defaultTheme? = s.defaultTheme?)
    (fallback : Option ResolvedTheme) : s'.shown fallback page = s.shown fallback page := by
  rw [h.shown_eq, h'.shown_eq, own, default]

/-- A page shows what it showed if its row and all records are as they were. -/
theorem shown_of_tables (hthemes : s'.themes = s.themes)
    (hvariations : s'.variations = s.variations)
    (hrow : s'.assignments.get? page = s.assignments.get? page)
    (fallback : Option ResolvedTheme) : s'.shown fallback page = s.shown fallback page :=
  congrArg Except.toOption (themeOf_of_tables hthemes hvariations hrow fallback)

/-! ## Assignments and the default theme -/

/-- Where the records stay, a page must be assigned or lose its assignment. -/
theorem assigns_of_shown_ne (hc : Change s call s') (hthemes : s'.themes = s.themes)
    (hvariations : s'.variations = s.variations)
    (changed : s'.shown fallback page ≠ s.shown fallback page) :
    (∃ target, call = .assign page target) ∨ call = .deleteAssignment page := by
  by_contra hother
  obtain ⟨hassign, hdelete⟩ := not_or.1 hother
  have hrow := assignments_change hc page (fun target heq => hassign ⟨target, heq⟩) hdelete
  exact changed (shown_of_tables hthemes hvariations hrow fallback)

/-- A new default theme shows only where a page has no theme of its own. -/
theorem ownTheme?_of_setDefaultTheme (h : s.Integrity) (hc : Change s (.setDefaultTheme id) s')
    (changed : s'.shown fallback page ≠ s.shown fallback page) : s.ownTheme? page = none := by
  cases own : s.ownTheme? page with
  | none => rfl
  | some t =>
    obtain ⟨a, key, state, ha, hkey, ht⟩ := ownTheme?_eq_some_iff.1 own
    have hrow := assignments_change hc page (by simp) (by simp)
    have own' : s'.ownTheme? page = some t :=
      ownTheme?_eq_some_iff.2
        ⟨a, key, state, hrow.trans ha, hkey, (ThemeEngine.themeAt_setDefaultTheme hc key).trans ht⟩
    rw [h.shown_eq, (h.change hc).shown_eq, own, own'] at changed
    exact absurd rfl changed

/-! ## New records -/

/-- A page that has a theme of its own keeps it when a record is added. -/
theorem Adds.ownTheme? (h : s.Adds id s') (hs : s.Integrity)
    (own : s.ownTheme? page = some t) : s'.ownTheme? page = some t := by
  obtain ⟨a, key, state, ha, hkey, ht⟩ := ownTheme?_eq_some_iff.1 own
  have hne : key.id ≠ id := by
    rintro rfl
    have htaken : s.hasId key.id = true := hasId_eq_true_iff.2 ⟨key, rfl, hs.holds_iff.2 ⟨t, ht⟩⟩
    rw [h.free] at htaken
    cases htaken
  refine ownTheme?_eq_some_iff.2 ⟨a, key, state, ?_, hkey, ?_⟩
  · rw [h.assignments, ha]
  · rw [h.themeAt_eq hs hne, ht]

/-- A new record shows on a page only as what the page is assigned to. -/
theorem Adds.of_shown_ne (h : s.Adds id s') (hs : s.Integrity) (hs' : s'.Integrity)
    (changed : s'.shown fallback page ≠ s.shown fallback page) :
    s.ownTheme? page = none ∧ ∃ t, s'.ownTheme? page = some t := by
  cases own : s.ownTheme? page with
  | some t =>
    have own' := h.ownTheme? hs own
    exact absurd (hs.shown_congr hs' (own'.trans own.symm) (h.defaultTheme?_eq hs hs') _) changed
  | none =>
    refine ⟨rfl, Option.ne_none_iff_exists'.1 fun own' => ?_⟩
    exact changed (hs.shown_congr hs' (own'.trans own.symm) (h.defaultTheme?_eq hs hs') _)

/-! ## Changed and deleted themes -/

theorem belongsTo_of_isFamily (h : s.Integrity) {key : ThemeKey} (ht : s.themeAt key = .ok t)
    (hfamily : ThemeCache.isFamily id key t = true) : t.BelongsTo id := by
  cases key with
  | theme q =>
    obtain ⟨u, hu, rfl⟩ := themeAt_theme_eq_ok_iff.1 ht
    exact (h.theme_id q u hu).trans (beq_iff_eq.1 hfamily)
  | variation q =>
    obtain ⟨v, parent, hv, hparent, rfl⟩ := themeAt_variation_eq_ok_iff.1 ht
    exact beq_iff_eq.1 hfamily

open ThemeEngine (SameApart) in
/-- A page that shows nothing of a theme shows what it showed when this theme is not what it was,
unless that brought a record into being or took the default theme. -/
theorem shown_of_sameApart (hsame : SameApart id s s') (h : s.Integrity) (h' : s'.Integrity)
    (holds : ∀ key, s'.Holds key → s.Holds key) (default : s'.HasDefault → s.HasDefault)
    (apart : ∀ t, s.shown fallback page = some t → ¬ t.BelongsTo id) :
    s'.shown fallback page = s.shown fallback page := by
  rw [h.shown_eq] at apart
  cases own : s.ownTheme? page with
  | some t =>
    obtain ⟨a, key, state, ha, hkey, ht⟩ := ownTheme?_eq_some_iff.1 own
    have hfamily : ThemeCache.isFamily id key t = false :=
      eq_false_of_ne_true fun hin => apart t (by rw [own]; rfl) (belongsTo_of_isFamily h ht hin)
    have own' : s'.ownTheme? page = some t :=
      ownTheme?_eq_some_iff.2
        ⟨a, key, state, by rw [hsame.assignments, ha], hkey, hsame.themeAt ht hfamily⟩
    rw [h.shown_eq, h'.shown_eq, own, own']
    rfl
  | none =>
    -- What the page is assigned to, if to anything, was not there and is not there now.
    have own' : s'.ownTheme? page = none := by
      by_contra hsome
      obtain ⟨t, ht⟩ := Option.ne_none_iff_exists'.1 hsome
      obtain ⟨a, key, state, ha, hkey, ht⟩ := ownTheme?_eq_some_iff.1 ht
      obtain ⟨u, hu⟩ := h.holds_iff.1 (holds key (h'.holds_iff.2 ⟨t, ht⟩))
      rw [hsame.assignments] at ha
      rw [ownTheme?_eq_some_iff.2 ⟨a, key, state, ha, hkey, hu⟩] at own
      cases own
    refine h.shown_congr h' (own'.trans own.symm) ?_ fallback
    cases hd : s.defaultTheme? with
    | none =>
      rw [defaultTheme?_eq_none_iff] at hd ⊢
      exact fun hd' => hd (default hd')
    | some d =>
      have hne : d.id ≠ id := apart d.resolved (by rw [own, hd]; rfl)
      obtain ⟨found, marked⟩ := h.findDefault_eq_ok_iff.1 (defaultTheme?_eq_some_iff.1 hd)
      rw [← hsame.themes d.id hne] at found
      exact defaultTheme?_eq_some_iff.2 (h'.findDefault_eq_ok_iff.2 ⟨found, marked⟩)

/-- Where no number was given, no record came into being. -/
theorem holds_of_lastNumber (hc : Change s call s') (hlast : s'.lastNumber = s.lastNumber)
    {key : ThemeKey} (hholds : s'.Holds key) : s.Holds key := by
  rcases holds_change hc hholds with hholds | ⟨kind, -, -, hnext⟩
  · exact hholds
  · have hlt := s.lastNumber_lt_freshNumber kind
    omega

open ThemeEngine (SameApart) in
/-- Where a theme is changed or deleted, that shows on a page only if the page had it. -/
theorem belongsTo_of_shown_ne (h : s.Integrity) (hc : Change s call s') (hsame : SameApart id s s')
    (hlast : s'.lastNumber = s.lastNumber) (hdefault : call.setsDefault = false)
    (changed : s'.shown fallback page ≠ s.shown fallback page) :
    ∃ t, s.shown fallback page = some t ∧ t.BelongsTo id := by
  by_contra hnone
  have hdefault' : s'.HasDefault → s.HasDefault := by
    rw [h.hasDefault_change hc, hdefault]
    simp
  exact changed (shown_of_sameApart hsame h (h.change hc) (fun _ => holds_of_lastNumber hc hlast)
    hdefault' fun t had belongs => hnone ⟨t, had, belongs⟩)

/-! ## All changes -/

/-- What a change must be to show on a page. -/
inductive ShowsOn (fallback : Option ResolvedTheme) (page : String) (s s' : MemoryStore) :
    StoreCall → Prop
  | assign (target : AssignmentTarget) : ShowsOn fallback page s s' (.assign page target)
  | deleteAssignment : ShowsOn fallback page s s' (.deleteAssignment page)
  | updateTheme {id : String} {patch : ThemePatch} {t : ResolvedTheme}
      (had : s.shown fallback page = some t) (belongs : t.BelongsTo id) :
      ShowsOn fallback page s s' (.updateTheme id patch)
  | deleteTheme {id : String} {t : ResolvedTheme} (had : s.shown fallback page = some t)
      (belongs : t.BelongsTo id) : ShowsOn fallback page s s' (.deleteTheme id)
  | setDefaultTheme {id : String} (unowned : s.ownTheme? page = none) :
      ShowsOn fallback page s s' (.setDefaultTheme id)
  | createTheme {draft : ThemeDraft} {t : ResolvedTheme} (missing : s.ownTheme? page = none)
      (found : s'.ownTheme? page = some t) : ShowsOn fallback page s s' (.createTheme draft)
  | createVariation {parentId : String} {draft : VariationDraft} {t : ResolvedTheme}
      (missing : s.ownTheme? page = none) (found : s'.ownTheme? page = some t) :
      ShowsOn fallback page s s' (.createVariation parentId draft)

/-- **What shows on a page.** -/
theorem showsOn_change (h : s.Integrity) (hc : Change s call s')
    (ordinary : ∀ d, call = .createTheme d → d.isDefault = false)
    (changed : s'.shown fallback page ≠ s.shown fallback page) :
    ShowsOn fallback page s s' call := by
  cases call with
  | listThemes | getTheme | getDefaultTheme | listVariations | getVariation | getAssignment =>
    cases hc
    exact absurd rfl changed
  | setOffline offline =>
    rcases assigns_of_shown_ne hc (by cases hc <;> rfl) (by cases hc <;> rfl) changed with
      ⟨_, heq⟩ | heq <;> cases heq
  | assign p target =>
    rcases assigns_of_shown_ne hc (by cases hc <;> rfl) (by cases hc <;> rfl) changed with
      ⟨_, heq⟩ | heq <;> cases heq
    exact .assign target
  | deleteAssignment p =>
    rcases assigns_of_shown_ne hc (by cases hc <;> rfl) (by cases hc <;> rfl) changed with
      ⟨_, heq⟩ | heq <;> cases heq
    exact .deleteAssignment
  | updateTheme id patch =>
    have hlast : s'.lastNumber = s.lastNumber := by cases hc <;> rfl
    obtain ⟨t, had, belongs⟩ := belongsTo_of_shown_ne h hc (ThemeEngine.sameApart_updateTheme hc)
      hlast rfl changed
    exact .updateTheme had belongs
  | deleteTheme id =>
    have hlast : s'.lastNumber = s.lastNumber := by cases hc <;> rfl
    obtain ⟨t, had, belongs⟩ := belongsTo_of_shown_ne h hc (ThemeEngine.sameApart_deleteTheme hc)
      hlast rfl changed
    exact .deleteTheme had belongs
  | setDefaultTheme id => exact .setDefaultTheme (ownTheme?_of_setDefaultTheme h hc changed)
  | createTheme draft =>
    obtain ⟨hadds, -⟩ := adds_of_createTheme hc (ordinary draft rfl)
    obtain ⟨missing, t, found⟩ := hadds.of_shown_ne h (h.change hc) changed
    exact .createTheme missing found
  | createVariation parentId draft =>
    obtain ⟨hadds, -⟩ := adds_of_createVariation hc
    obtain ⟨missing, t, found⟩ := hadds.of_shown_ne h (h.change hc) changed
    exact .createVariation missing found

end MemoryStore

end ThemedPages
