import ThemedPages.Style.Injector

/-!
# Applying a theme

An injector puts the element of a page in the place of the one that is there, and notes a handle for
it. It does so whenever its target is available, and otherwise it does nothing.

**Theorem (`injected`).** What is there once a theme has been applied.

**Theorem (`Reachable.grounded`).** An injector whose target is not available has nothing applied.
-/

namespace ThemedPages

/-! ## Targets -/

namespace StyleTarget

variable {target : StyleTarget}

@[simp] theorem isAvailable_remove (target : StyleTarget) (id : String) :
    (target.remove id).isAvailable = target.isAvailable := by
  cases target <;> rfl

@[simp] theorem elements_remove (target : StyleTarget) (id : String) :
    (target.remove id).elements = target.elements.filter fun e => e.id != id := by
  cases target <;> rfl

/-- A target that is available takes every element. -/
theorem insert_of_available (available : target.isAvailable = true) (e : StyleElement) :
    ∃ target', target.insert e = .ok target' ∧ target'.isAvailable = true ∧
      target'.elements = target.elements ++ [e] := by
  cases target with
  | document es => exact ⟨_, rfl, rfl, rfl⟩
  | recording es ops detached =>
    cases detached with
    | true => cases available
    | false => exact ⟨_, rfl, rfl, rfl⟩

/-- An element takes the place of those with its id. -/
theorem element?_of_replaced {target' : StyleTarget} {e : StyleElement}
    (replaced : target'.elements = (target.remove e.id).elements ++ [e]) (id : String) :
    target'.element? id = if id = e.id then some e else target.element? id := by
  rw [element?, element?, replaced, elements_remove, List.find?_append, List.find?_filter]
  by_cases hid : id = e.id
  · have hnone : (target.elements.find? fun _ => false) = none := by simp
    simp [hid, hnone]
  · have hsame : (fun e' : StyleElement => decide ((e'.id != e.id) = true ∧ (e'.id == id) = true)) =
        fun e' => e'.id == id := by
      funext e'
      by_cases he : e'.id = id <;> simp [he, hid]
    rw [hsame, if_neg hid]
    simp [Ne.symm hid]

end StyleTarget

/-! ## Injectors -/

/-- The handle of a page with a theme. -/
def StyleOptions.handle (o : StyleOptions) (page : String) (t : ResolvedTheme) : StyleHandle :=
  ⟨o.elementId page, t.id, (safeDeclarations t.properties).length⟩

namespace StyleInjector

variable {i i' : StyleInjector} {page : String} {t : ResolvedTheme}

/-- What an injector is that has applied a theme to a page. -/
structure Injected (i : StyleInjector) (page : String) (t : ResolvedTheme) (i' : StyleInjector) :
    Prop where
  available : i'.target.isAvailable = true
  options : i'.options = i.options
  applied : i'.applied = i.applied.insert page (i.options.handle page t)
  element? : ∀ id, i'.target.element? id =
    if id = i.options.elementId page then some (i.options.element page t)
    else i.target.element? id

/-- An element is put in the place of the page's, and a handle is noted. -/
theorem run_inject (available : i.target.isAvailable = true) (page : String) (t : ResolvedTheme) :
    ∃ target, i.inject page t = (.ok (i.options.handle page t),
        { i with target, applied := i.applied.insert page (i.options.handle page t) }) ∧
      target.isAvailable = true ∧
      target.elements = (i.target.remove (i.options.elementId page)).elements ++
        [i.options.element page t] := by
  have hremoved : (i.target.remove (i.options.elementId page)).isAvailable = true := by simpa
  obtain ⟨target, hinsert, htarget, helements⟩ :=
    StyleTarget.insert_of_available hremoved (i.options.element page t)
  refine ⟨target, ?_, htarget, helements⟩
  have hinsert' : (i.target.remove (i.options.element page t).id).insert
      (i.options.element page t) = .ok target := hinsert
  simp only [inject, available, Bool.not_true, Bool.false_eq_true, if_false, hinsert']
  rfl

/-- **Applying a theme.** -/
theorem injected (available : i.target.isAvailable = true) (page : String) (t : ResolvedTheme) :
    Injected i page t (i.inject page t).2 := by
  obtain ⟨target, hrun, htarget, helements⟩ := run_inject available page t
  rw [hrun]
  exact ⟨htarget, rfl, rfl,
    StyleTarget.element?_of_replaced (e := i.options.element page t) helements⟩

theorem inject_of_unavailable (unavailable : i.target.isAvailable = false) (page : String)
    (t : ResolvedTheme) : (i.inject page t).2 = i := by
  simp [inject, unavailable]

/-- No other page gets another handle. -/
theorem applied_inject_of_ne (i : StyleInjector) (t : ResolvedTheme) {q : String} (hq : q ≠ page) :
    (i.inject page t).2.applied.get? q = i.applied.get? q := by
  cases available : i.target.isAvailable with
  | true => rw [(injected available page t).applied, Table.get?_insert, if_neg hq]
  | false => rw [inject_of_unavailable available]

/-- The injectors that come to be from a new one. -/
inductive Reachable : StyleInjector → Prop
  | new (target : StyleTarget) (options : StyleOptions) : Reachable { target, options }
  | inject {i : StyleInjector} (h : Reachable i) (page : String) (t : ResolvedTheme) :
      Reachable (i.inject page t).2
  | remove {i : StyleInjector} (h : Reachable i) (page : String) : Reachable (i.remove page)
  | clear {i : StyleInjector} (h : Reachable i) : Reachable i.clear

/-- Something is applied only if there is something to render to. -/
def Grounded (i : StyleInjector) : Prop := i.target.isAvailable = true ∨ i.applied = .empty

theorem Grounded.inject (h : i.Grounded) (page : String) (t : ResolvedTheme) :
    (i.inject page t).2.Grounded := by
  cases available : i.target.isAvailable with
  | true => exact .inl (injected available page t).available
  | false => rwa [inject_of_unavailable available]

/-- The handle that a page has, once a theme has been applied to it. -/
theorem Grounded.handle_inject (h : i.Grounded) {handle : StyleHandle}
    (found : (i.inject page t).2.applied.get? page = some handle) :
    handle = i.options.handle page t := by
  cases available : i.target.isAvailable with
  | true =>
    rw [(injected available page t).applied, Table.get?_insert_self] at found
    exact (Option.some.inj found).symm
  | false =>
    rcases h with available' | hempty
    · rw [available] at available'
      cases available'
    · rw [inject_of_unavailable available, hempty] at found
      cases found

theorem Grounded.remove (h : i.Grounded) (page : String) : (i.remove page).Grounded := by
  unfold StyleInjector.remove
  split
  · rename_i handle found
    rcases h with available | hempty
    · exact .inl ((StyleTarget.isAvailable_remove _ _).trans available)
    · rw [hempty] at found
      cases found
  · exact h

/-- **An injector without a target has nothing applied.** -/
theorem Reachable.grounded (h : i.Reachable) : i.Grounded := by
  induction h with
  | new target options => exact .inr rfl
  | inject _ page t ih => exact ih.inject page t
  | remove _ page ih => exact ih.remove page
  | clear _ _ => exact .inr rfl

end StyleInjector

end ThemedPages
