import ThemedPages.Proofs.Site.Following

/-!
# A page refresh and other pages

A refresh of a page drops the theme that the page is bound to, also for the other pages that are
bound to it, and applies what it resolves to the page alone. The others keep what they have on until
they are asked for, although they show what is in the store by then.

Two pages may have one element, when their ids differ only in characters that an element's id cannot
have. Such a page loses its declarations to the page that was refreshed.

**Theorem (`refreshPage_restyles_iff`).** After a refresh of a page, a page has the theme on that it is
served iff it is the one that was refreshed, or it had this theme on before and has its own element.
-/

namespace ThemedPages

/-- The declarations of an element, rule by rule. -/
def StyleElement.declarations (e : StyleElement) : List (List (String × String)) :=
  e.rules.map StyleRule.declarations

namespace StyleInjector

variable {i i' : StyleInjector} {page q : String} {t u : ResolvedTheme}

/-- The declarations that there are for a page. -/
def declared? (i : StyleInjector) (page : String) : Option (List (List (String × String))) :=
  (i.target.element? (i.options.elementId page)).map StyleElement.declarations

/-- A page has a theme on: its handle and its declarations are those of the theme. -/
structure Wears (i : StyleInjector) (page : String) (t : ResolvedTheme) : Prop where
  handle : i.applied.get? page = some (i.options.handle page t)
  declared : i.declared? page = some (i.options.element page t).declarations

/-- A page has a theme on once `u` is applied to another page. If they have one element, this holds
the declarations of `u`. -/
structure LeftWearing (i : StyleInjector) (page : String) (u : ResolvedTheme) (q : String)
    (t : ResolvedTheme) : Prop where
  handle : i.applied.get? q = some (i.options.handle q t)
  declared : (if i.options.elementId q = i.options.elementId page then
    some (i.options.element page u).declarations else i.declared? q) =
      some (i.options.element q t).declarations

theorem Injected.declared? (h : Injected i page u i') (q : String) :
    i'.declared? q = if i.options.elementId q = i.options.elementId page then
      some (i.options.element page u).declarations else i.declared? q := by
  rw [StyleInjector.declared?, h.options, h.element?]
  split <;> rfl

theorem Injected.wears (h : Injected i page u i') : i'.Wears page u where
  handle := by rw [h.applied, h.options, Table.get?_insert_self]
  declared := by rw [h.declared?, if_pos rfl, h.options]

/-- **Applying a theme changes no other page**, but for a shared element. -/
theorem Injected.wears_iff (h : Injected i page u i') (hq : q ≠ page) :
    i'.Wears q t ↔ i.LeftWearing page u q t := by
  have hrow : i'.applied.get? q = i.applied.get? q := by
    rw [h.applied, Table.get?_insert, if_neg hq]
  constructor
  · rintro ⟨handle, declared⟩
    rw [hrow, h.options] at handle
    rw [h.declared?, h.options] at declared
    exact ⟨handle, declared⟩
  · rintro ⟨handle, declared⟩
    rw [← hrow, ← h.options] at handle
    rw [← h.declared?, ← h.options] at declared
    exact ⟨handle, declared⟩

end StyleInjector

namespace Site

variable {s : Site MemoryStore} {page : String}

/-- **Which pages a page refresh leaves up to date.** -/
theorem refreshPage_restyles_iff (h : s.ReachableWithEdits)
    (available : s.styles.target.isAvailable = true) (page : String)
    (done : (refreshPage page s).1 = .ok ()) :
    ∃ u, (ThemeEngine.pageTheme page (refreshPage page s).2.themes).1 = .ok u ∧
      ∀ q t, (ThemeEngine.pageTheme q (refreshPage page s).2.themes).1 = .ok t →
        ((refreshPage page s).2.styles.Wears q t ↔
          q = page ∨ s.styles.LeftWearing page u q t) := by
  have hagain := ThemeEngine.pageTheme_refreshPage h.parts.themes.integrity page
  rw [refreshPage, run_discard, run_applying] at done ⊢
  cases houtcome : (ThemeEngine.refreshPage page s.themes).1 with
  | error failure =>
    rw [houtcome] at done
    cases done
  | ok u =>
    rw [houtcome] at hagain
    have hinjected := StyleInjector.injected available page u
    refine ⟨u, hagain, fun q t ht => ?_⟩
    by_cases hq : q = page
    · subst hq
      rw [hagain] at ht
      cases ht
      exact iff_of_true hinjected.wears (.inl rfl)
    · exact (hinjected.wears_iff hq).trans (or_iff_right hq).symm

theorem refreshPage_of_recolored :
    ∃ s t, MemoryStore.ofSnapshot ThemeEngine.soleDefault = .ok s ∧
      (refreshPage "about" (recolored s)).1 = .ok () ∧
      (ThemeEngine.pageTheme "about" (refreshPage "about" (recolored s)).2.themes).1 = .ok t ∧
      (refreshPage "about" (recolored s)).2.styles.Wears "about" t := by
  obtain ⟨s, hs⟩ : ∃ s, MemoryStore.ofSnapshot ThemeEngine.soleDefault = .ok s := ⟨_, rfl⟩
  have done : (refreshPage "about" (recolored s)).1 = .ok () := by
    cases hs
    rfl
  obtain ⟨u, hserved, hpages⟩ :=
    refreshPage_restyles_iff (reachable_recolored (.loaded hs)) (by cases hs; rfl) "about" done
  exact ⟨s, u, hs, done, hserved, (hpages "about" u hserved).2 (.inl rfl)⟩

/-- **A page that a refresh leaves behind.** It loses the theme that is cached for it, and keeps the
style of this theme. -/
theorem page_left_behind :
    ∃ s t, MemoryStore.ofSnapshot ThemeEngine.soleDefault = .ok s ∧
      (refreshPage "about" (recolored s)).1 = .ok () ∧
      (recolored s).styles.isApplied "team" = true ∧
      ((recolored s).themes.cache.pageTheme? "team").isSome = true ∧
      (refreshPage "about" (recolored s)).2.themes.cache.pageTheme? "team" = none ∧
      (ThemeEngine.pageTheme "team" (refreshPage "about" (recolored s)).2.themes).1 = .ok t ∧
      ¬ (refreshPage "about" (recolored s)).2.styles.Wears "team" t := by
  refine ⟨_, _, rfl, rfl, rfl, rfl, rfl, rfl, fun hwears => ?_⟩
  have hcount := congrArg (Option.map StyleHandle.propertyCount) hwears.handle
  revert hcount
  decide +kernel

end Site

end ThemedPages
