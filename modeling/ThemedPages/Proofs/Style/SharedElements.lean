import Mathlib.Data.List.Induction
import ThemedPages.Proofs.Style.Elements

/-!
# Pages that share an element

The id of an element says less than the page: every character that cannot stand in it becomes a
hyphen. Two pages may so have one element. What is applied to one of them then takes the place of
what is applied to the other, and when one is removed the other loses its element too; the handle of
the other stays.

`Takes` says which calls take the element of a page. From such a call on, the page has no style of
its own until a theme is applied to it anew.

**Theorem (`ownStyle_iff`).** A page that has a theme applied has its own element, with its own
selector and the declarations of the theme last applied to it, iff no call since then took it.
-/

namespace ThemedPages

/-! ## Selectors tell pages apart -/

/-- What stands within quotes, when a backslash only guards the character after it. -/
def unquoted : List Char → List Char
  | '\\' :: c :: rest => c :: unquoted rest
  | c :: rest => c :: unquoted rest
  | [] => []

theorem unquoted_quotedPage (page : String) : unquoted (quotedPage page) = page.toList := by
  unfold quotedPage
  induction page.toList with
  | nil => rfl
  | cons c cs ih =>
    rw [List.flatMap_cons]
    split
    · rw [List.cons_append, List.singleton_append, unquoted, ih]
    · rename_i hplain
      have hc : c ≠ '\\' := by
        rintro rfl
        simp at hplain
      rw [List.singleton_append, unquoted, ih]
      rintro _ _ rfl
      exact absurd rfl hc

/-- The selector of a page, when nothing else is chosen. -/
theorem toList_selectorOf_default (page : String) :
    (({} : StyleOptions).selectorOf page).toList =
      "[data-page-id=\"".toList ++ (quotedPage page ++ "\"]".toList) := by
  rw [StyleOptions.selectorOf, String.toList_ofList]
  rfl

theorem selectorOf_injective {p q : String}
    (h : ({} : StyleOptions).selectorOf p = ({} : StyleOptions).selectorOf q) : p = q := by
  have hchars := congrArg String.toList h
  rw [toList_selectorOf_default, toList_selectorOf_default] at hchars
  have hquoted := List.append_cancel_right (List.append_cancel_left hchars)
  rw [← String.toList_inj, ← unquoted_quotedPage, hquoted, unquoted_quotedPage]

namespace StyleInjector

variable {i : StyleInjector} {page : String} {t : ResolvedTheme} {call : StyleCall}
  {calls before after : List StyleCall}

/-! ## What is applied, and what is there -/

@[simp] theorem isAvailable_perform (i : StyleInjector) (call : StyleCall) :
    (i.perform call).target.isAvailable = i.target.isAvailable := by
  cases call with
  | inject page t =>
    cases available : i.target.isAvailable with
    | true => exact (injected available page t).available
    | false => rw [perform, inject_of_unavailable available, available]
  | remove page =>
    rw [perform, remove]
    split
    · exact StyleTarget.isAvailable_remove _ _
    · rfl
  | clear =>
    have hfold : ∀ (handles : List StyleHandle) (target : StyleTarget),
        (handles.foldl (fun t handle => t.remove handle.elementId) target).isAvailable =
          target.isAvailable := by
      intro handles
      induction handles with
      | nil => exact fun _ => rfl
      | cons handle handles ih =>
        intro target
        rw [List.foldl_cons, ih, StyleTarget.isAvailable_remove]
    exact hfold i.applied.values i.target

theorem options_runCalls (calls : List StyleCall) (i : StyleInjector) :
    (runCalls calls i).options = i.options :=
  runCalls_induction (P := fun j => j.options = i.options)
    (fun call h => (options_perform _ call).trans h) rfl calls

theorem isAvailable_runCalls (calls : List StyleCall) (i : StyleInjector) :
    (runCalls calls i).target.isAvailable = i.target.isAvailable :=
  runCalls_induction (P := fun j => j.target.isAvailable = i.target.isAvailable)
    (fun call h => (isAvailable_perform _ call).trans h) rfl calls

/-- An element was there before a call, or it comes of the call. -/
theorem mem_elements_perform {e : StyleElement} (he : e ∈ (i.perform call).target.elements) :
    e ∈ i.target.elements ∨ ∃ q t, call = .inject q t ∧ e = i.options.element q t := by
  cases call with
  | inject q t =>
    cases available : i.target.isAvailable with
    | false =>
      rw [perform, inject_of_unavailable available] at he
      exact .inl he
    | true =>
      rw [perform, elements_inject available, List.mem_append, List.mem_singleton] at he
      exact he.imp (fun he => (List.mem_filter.1 he).1) fun he => ⟨q, t, rfl, he⟩
  | remove q =>
    cases found : i.applied.get? q with
    | none =>
      rw [perform, remove_of_not_applied found] at he
      exact .inl he
    | some handle =>
      rw [perform, remove_of_applied found, StyleTarget.elements_remove] at he
      exact .inl (List.mem_filter.1 he).1
  | clear => exact .inl (mem_elements_clear.1 he).1

/-- Only by a theme that is applied to it does a page come to have one applied. -/
theorem isApplied_of_perform (applied : (i.perform call).isApplied page = true) :
    i.isApplied page = true ∨ ∃ t, call = .inject page t := by
  cases call with
  | inject q t =>
    by_cases hq : page = q
    · exact .inr ⟨t, by rw [hq]⟩
    · left
      rwa [isApplied, Table.contains, perform, applied_inject_of_ne i t hq] at applied
  | remove q =>
    left
    cases found : i.applied.get? q with
    | none => rwa [perform, remove_of_not_applied found] at applied
    | some handle =>
      rw [perform, remove_of_applied found] at applied
      exact ((Table.contains_erase_iff _ _ _).1 applied).2
  | clear => cases applied

theorem isApplied_of_runCalls (last : ∀ t, .inject page t ∉ calls)
    (applied : (runCalls calls i).isApplied page = true) : i.isApplied page = true := by
  induction calls generalizing i with
  | nil => exact applied
  | cons call calls ih =>
    have hfirst := ih (fun t ht => last t (List.mem_cons_of_mem _ ht)) applied
    refine (isApplied_of_perform hfirst).resolve_right ?_
    rintro ⟨t, rfl⟩
    exact last t List.mem_cons_self

/-- Something is applied only where there is something to render to. -/
theorem available_of_isApplied {target : StyleTarget} {options : StyleOptions}
    (applied : (runCalls calls { target, options }).isApplied page = true) :
    target.isAvailable = true := by
  have hreachable : (runCalls calls { target, options }).Reachable := by
    refine runCalls_induction (fun call h => ?_) (Reachable.new target options) calls
    cases call with
    | inject page t => exact h.inject page t
    | remove page => exact h.remove page
    | clear => exact h.clear
  rcases hreachable.grounded with available | hempty
  · rwa [isAvailable_runCalls] at available
  · rw [isApplied, hempty] at applied
    cases applied

/-! ## Having an own style -/

/-- A page has an own style: there is exactly one element under the id in its handle, this selects
the page, and it declares what can be declared of the theme. -/
def OwnStyle (i : StyleInjector) (page : String) (t : ResolvedTheme) : Prop :=
  ∃ handle e, i.applied.get? page = some handle ∧
    (i.target.elements.filter fun e => e.id == handle.elementId) = [e] ∧
    e.rules.head?.map StyleRule.selector = some (i.options.selectorOf page) ∧
    ∀ r ∈ e.rules, r.declarations = safeDeclarations t.properties

/-- The calls that take the element of a page, since another page has it too. -/
inductive Takes (i : StyleInjector) (page : String) : StyleCall → Prop
  | inject {q : String} (t : ResolvedTheme) (other : q ≠ page)
      (shared : i.options.elementId q = i.options.elementId page) : Takes i page (.inject q t)
  | remove {q : String} (other : q ≠ page)
      (shared : i.options.elementId q = i.options.elementId page)
      (applied : i.isApplied q = true) : Takes i page (.remove q)

/-- No call of a sequence takes the element of a page. -/
def Spared (page : String) : List StyleCall → StyleInjector → Prop
  | [], _ => True
  | call :: calls, i => ¬ Takes i page call ∧ Spared page calls (i.perform call)

/-- A page has the element that a theme gave it. -/
structure Intact (i : StyleInjector) (page : String) (t : ResolvedTheme) : Prop where
  handle : i.applied.get? page = some (i.options.handle page t)
  element : (i.target.elements.filter fun e => e.id == i.options.elementId page) =
    [i.options.element page t]

/-- Whatever is there under the id of a page's element belongs to another page. -/
def Lost (i : StyleInjector) (page : String) : Prop :=
  ∀ e ∈ i.target.elements, e.id = i.options.elementId page →
    ∃ q t, q ≠ page ∧ e = i.options.element q t

theorem Intact.ownStyle (h : i.Intact page t) : i.OwnStyle page t := by
  refine ⟨_, _, h.handle, h.element, rfl, fun r hr => ?_⟩
  rcases List.mem_cons.1 hr with rfl | hr
  · rfl
  · split at hr
    · rw [List.mem_singleton.1 hr]
    · cases hr

/-- The selector gives the other page away. -/
theorem Lost.not_ownStyle (h : i.Lost page) (tidy : i.Tidy) (hoptions : i.options = {}) :
    ¬ i.OwnStyle page t := by
  rintro ⟨handle, e, found, hunder, hselector, -⟩
  have he : e ∈ i.target.elements.filter fun e => e.id == handle.elementId := by simp [hunder]
  obtain ⟨he, hid⟩ := List.mem_filter.1 he
  rw [tidy.labelled page handle found, beq_iff_eq] at hid
  obtain ⟨q, u, hq, rfl⟩ := h e he hid
  rw [hoptions] at hselector
  exact hq (selectorOf_injective (Option.some.inj hselector))

/-! ## Calls -/

/-- Elements with one id are still there when those with another id are gone. -/
theorem filter_filter_ne {id id' : String} (hid : id ≠ id') (es : List StyleElement) :
    ((es.filter fun e => e.id != id').filter fun e => e.id == id) =
      es.filter fun e => e.id == id := by
  rw [List.filter_filter]
  refine List.filter_congr fun e _ => ?_
  by_cases he : e.id = id <;> simp [he, hid]

theorem intact_inject (available : i.target.isAvailable = true) (page : String)
    (t : ResolvedTheme) : (i.inject page t).2.Intact page t where
  handle := by
    have h := injected available page t
    rw [h.applied, h.options, Table.get?_insert_self]
  element := by
    have hgone : ((i.target.elements.filter fun e => e.id != i.options.elementId page).filter
        fun e => e.id == i.options.elementId page) = [] := by
      simp [List.filter_filter]
    rw [elements_inject available, (injected available page t).options, List.filter_append, hgone]
    simp [StyleOptions.element]

/-- A call that does not take the element of a page leaves it, unless it takes the page's style
off. -/
theorem Intact.perform (h : i.Intact page t) (tidy : i.Tidy) (spared : ¬ Takes i page call)
    (last : ∀ u, call ≠ .inject page u) (applied : (i.perform call).isApplied page = true) :
    (i.perform call).Intact page t := by
  cases call with
  | clear => cases applied
  | inject q u =>
    have hq : q ≠ page := by
      rintro rfl
      exact last u rfl
    have hid : i.options.elementId page ≠ i.options.elementId q :=
      fun shared => spared (.inject u hq shared.symm)
    cases available : i.target.isAvailable with
    | false => rwa [StyleInjector.perform, inject_of_unavailable available]
    | true =>
      constructor
      · rw [options_perform, StyleInjector.perform, applied_inject_of_ne i u hq.symm, h.handle]
      · rw [options_perform, StyleInjector.perform, elements_inject available, List.filter_append,
          filter_filter_ne hid, h.element]
        simp [StyleOptions.element, hid.symm]
  | remove q =>
    cases found : i.applied.get? q with
    | none => rwa [StyleInjector.perform, remove_of_not_applied found]
    | some handle =>
      rw [StyleInjector.perform, remove_of_applied found] at applied ⊢
      have hq : page ≠ q := ((Table.contains_erase_iff _ _ _).1 applied).1
      have hid : i.options.elementId page ≠ i.options.elementId q := fun shared =>
        spared (.remove hq.symm shared.symm ((Table.contains_iff _ _).2 ⟨handle, found⟩))
      constructor
      · rw [Table.get?_erase, if_neg hq, h.handle]
      · rw [StyleTarget.elements_remove, tidy.labelled q handle found, filter_filter_ne hid,
          h.element]

theorem lost_of_takes (tidy : i.Tidy) (taken : Takes i page call)
    (available : i.target.isAvailable = true) : (i.perform call).Lost page := by
  cases taken with
  | @inject q u other shared =>
    intro e he hid
    rw [options_perform] at hid ⊢
    rw [perform, elements_inject available, List.mem_append, List.mem_singleton] at he
    rcases he with he | rfl
    · have hne : e.id ≠ i.options.elementId q := by simpa using (List.mem_filter.1 he).2
      exact absurd (hid.trans shared.symm) hne
    · exact ⟨q, u, other, rfl⟩
  | @remove q other shared applied =>
    intro e he hid
    obtain ⟨handle, found⟩ := (Table.contains_iff _ _).1 applied
    rw [options_perform] at hid
    rw [perform, remove_of_applied found, StyleTarget.elements_remove,
      tidy.labelled q handle found] at he
    have hne : e.id ≠ i.options.elementId q := by simpa using (List.mem_filter.1 he).2
    exact absurd (hid.trans shared.symm) hne

theorem Lost.perform (h : i.Lost page) (last : ∀ u, call ≠ .inject page u) :
    (i.perform call).Lost page := by
  intro e he hid
  rw [options_perform] at hid ⊢
  rcases mem_elements_perform he with he | ⟨q, u, rfl, rfl⟩
  · exact h e he hid
  · refine ⟨q, u, ?_, rfl⟩
    rintro rfl
    exact last u rfl

theorem Lost.runCalls (h : i.Lost page) (last : ∀ t, .inject page t ∉ calls) :
    (runCalls calls i).Lost page := by
  induction calls generalizing i with
  | nil => exact h
  | cons call calls ih =>
    refine ih (h.perform fun t ht => last t ?_) fun t ht => last t (List.mem_cons_of_mem _ ht)
    rw [ht]
    exact List.mem_cons_self

/-- **Since the last theme.** A page keeps its element as long as no call takes it, and does not
get it back. -/
theorem Intact.ownStyle_iff_spared (h : i.Intact page t) (tidy : i.Tidy) (hoptions : i.options = {})
    (available : i.target.isAvailable = true) (last : ∀ t, .inject page t ∉ calls)
    (applied : (runCalls calls i).isApplied page = true) :
    (runCalls calls i).OwnStyle page t ↔ Spared page calls i := by
  induction calls generalizing i with
  | nil => exact iff_of_true h.ownStyle trivial
  | cons call calls ih =>
    have hcall : ∀ u, call ≠ .inject page u := by
      rintro u rfl
      exact last u List.mem_cons_self
    have hrest : ∀ u, .inject page u ∉ calls := fun u hu => last u (List.mem_cons_of_mem _ hu)
    rw [runCalls_cons] at applied ⊢
    by_cases taken : Takes i page call
    · have hlost := (lost_of_takes tidy taken available).runCalls hrest
      refine iff_of_false (hlost.not_ownStyle ((tidy.perform call).runCalls calls) ?_)
        fun spared => spared.1 taken
      rw [options_runCalls, options_perform, hoptions]
    · have hintact := h.perform tidy taken hcall (isApplied_of_runCalls hrest applied)
      rw [ih hintact (tidy.perform call) (by rwa [options_perform])
        (by rwa [isAvailable_perform]) hrest applied]
      exact (and_iff_right taken).symm

/-- A page that has a theme applied was given a last one. -/
theorem exists_last_inject (absent : i.isApplied page = false)
    (applied : (runCalls calls i).isApplied page = true) :
    ∃ before t after, calls = before ++ .inject page t :: after ∧
      ∀ u, .inject page u ∉ after := by
  induction calls using List.reverseRecOn with
  | nil =>
    rw [runCalls_nil, absent] at applied
    cases applied
  | append_singleton calls call ih =>
    by_cases given : ∃ t, call = .inject page t
    · obtain ⟨t, rfl⟩ := given
      exact ⟨calls, t, [], rfl, fun _ => List.not_mem_nil⟩
    · rw [runCalls_append] at applied
      obtain ⟨before, t, after, rfl, last⟩ :=
        ih ((isApplied_of_perform applied).resolve_right given)
      refine ⟨before, t, after ++ [call], by simp, fun u hu => ?_⟩
      rcases List.mem_append.1 hu with hu | hu
      · exact last u hu
      · exact given ⟨u, (List.mem_singleton.1 hu).symm⟩

/-- **Which pages have their own style.** -/
theorem ownStyle_iff {target : StyleTarget} (empty : target.elements = [])
    (calls : List StyleCall) (page : String)
    (applied : (runCalls calls { target }).isApplied page = true) :
    ∃ before t after, calls = before ++ .inject page t :: after ∧
      (∀ u, .inject page u ∉ after) ∧
      ((runCalls calls { target }).OwnStyle page t ↔
        Spared page after (runCalls (before ++ [.inject page t]) { target })) := by
  obtain ⟨before, t, after, rfl, last⟩ := exists_last_inject rfl applied
  refine ⟨before, t, after, rfl, last, ?_⟩
  have available := available_of_isApplied applied
  rw [← isAvailable_runCalls before { target }] at available
  rw [List.append_cons, runCalls_append] at applied ⊢
  rw [runCalls_append, runCalls_cons, runCalls_nil] at applied ⊢
  refine (intact_inject available page t).ownStyle_iff_spared ?_ ?_ ?_ last applied
  · exact ((tidy_new empty {}).runCalls before).perform (.inject page t)
  · exact (options_perform _ (.inject page t)).trans (options_runCalls before _)
  · exact (isAvailable_perform _ (.inject page t)).trans available

theorem ownStyle_of_twoPages :
    StyleTarget.emptyDocument.elements = [] ∧
    (runCalls twoPages { target := .emptyDocument }).isApplied "a b" = true ∧
    ∃ before t after, twoPages = before ++ .inject "a b" t :: after ∧
      (∀ u, .inject "a b" u ∉ after) ∧
      ((runCalls twoPages { target := .emptyDocument }).OwnStyle "a b" t ↔
        Spared "a b" after
          (runCalls (before ++ [.inject "a b" t]) { target := .emptyDocument })) :=
  ⟨rfl, by decide, ownStyle_iff rfl twoPages "a b" (by decide)⟩

/-- **A page without a style of its own.** The element of the one page is the other's, and goes with
it; the page still counts as having a theme applied. -/
theorem applied_without_own_style :
    (runCalls twoPages { target := .emptyDocument }).isApplied "a b" = true ∧
    (∀ t, ¬ (runCalls twoPages { target := .emptyDocument }).OwnStyle "a b" t) ∧
    (runCalls (twoPages ++ [.remove "a.b"]) { target := .emptyDocument }).isApplied "a b" = true ∧
    (runCalls (twoPages ++ [.remove "a.b"]) { target := .emptyDocument }).target.elements = [] := by
  refine ⟨by decide, fun t => ?_, by decide, by decide⟩
  have htidy : Tidy { target := .emptyDocument } := tidy_new rfl {}
  have taken : Takes (runCalls [.inject "a b" (oneColor "red")] { target := .emptyDocument }) "a b"
      (.inject "a.b" (oneColor "blue")) := .inject _ (by decide) (by decide)
  exact (lost_of_takes (htidy.runCalls _) taken rfl).not_ownStyle (htidy.runCalls twoPages) rfl

end StyleInjector

end ThemedPages
