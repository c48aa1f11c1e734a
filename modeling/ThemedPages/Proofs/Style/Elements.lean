import ThemedPages.Proofs.Style.Injection

/-!
# The elements of a target

Every element of a target is there for a page: the injector holds a handle that names it. The
handle set and the target are changed one after the other, and several pages may have one element,
so this is an invariant of the two together, `Tidy`, which every call keeps.

**Theorem (`elements_runCalls`).** From an empty target on, whatever is injected, removed and
cleared: no two elements have one id, each has the id in the handle of some page, clearing leaves
none, and of two themes that are applied to a page in turn the first leaves no trace.
-/

namespace ThemedPages

/-- A call of an injector. -/
inductive StyleCall
  | inject (page : String) (t : ResolvedTheme)
  | remove (page : String)
  | clear

namespace StyleInjector

/-- The injector after a call. -/
def perform (i : StyleInjector) : StyleCall → StyleInjector
  | .inject page t => (i.inject page t).2
  | .remove page => i.remove page
  | .clear => i.clear

/-- The injector after a sequence of calls. -/
def runCalls (calls : List StyleCall) (i : StyleInjector) : StyleInjector := calls.foldl perform i

@[simp] theorem runCalls_nil (i : StyleInjector) : runCalls [] i = i := rfl

@[simp] theorem runCalls_cons (call : StyleCall) (calls : List StyleCall) (i : StyleInjector) :
    runCalls (call :: calls) i = runCalls calls (i.perform call) := rfl

theorem runCalls_append (calls calls' : List StyleCall) (i : StyleInjector) :
    runCalls (calls ++ calls') i = runCalls calls' (runCalls calls i) := List.foldl_append

/-- What every call keeps, a sequence of calls keeps. -/
theorem runCalls_induction {P : StyleInjector → Prop}
    (step : ∀ {i : StyleInjector} (call : StyleCall), P i → P (i.perform call))
    {i : StyleInjector} (h : P i) (calls : List StyleCall) : P (runCalls calls i) :=
  List.foldlRecOn calls perform h fun _ hi call _ => step call hi

variable {i : StyleInjector} {page : String} {handle : StyleHandle}

/-! ## What a call does to the elements and to the handles -/

theorem elements_inject (available : i.target.isAvailable = true) (page : String)
    (t : ResolvedTheme) :
    (i.inject page t).2.target.elements =
      (i.target.elements.filter fun e => e.id != i.options.elementId page) ++
        [i.options.element page t] := by
  obtain ⟨target, hrun, -, helements⟩ := run_inject available page t
  rw [hrun, ← StyleTarget.elements_remove]
  exact helements

theorem remove_of_applied (found : i.applied.get? page = some handle) :
    i.remove page =
      { i with target := i.target.remove handle.elementId, applied := i.applied.erase page } := by
  simp only [remove, found]

theorem remove_of_not_applied (absent : i.applied.get? page = none) : i.remove page = i := by
  simp only [remove, absent]

/-- An element is cleared away when a handle names it. -/
theorem mem_elements_clear {e : StyleElement} :
    e ∈ i.clear.target.elements ↔
      e ∈ i.target.elements ∧ ∀ handle ∈ i.applied.values, handle.elementId ≠ e.id := by
  have hfold : ∀ (handles : List StyleHandle) (target : StyleTarget),
      e ∈ (handles.foldl (fun t handle => t.remove handle.elementId) target).elements ↔
        e ∈ target.elements ∧ ∀ handle ∈ handles, handle.elementId ≠ e.id := by
    intro handles
    induction handles with
    | nil => simp
    | cons handle handles ih =>
      intro target
      rw [List.foldl_cons, ih, StyleTarget.elements_remove]
      simp [and_assoc, ne_comm]
  exact hfold i.applied.values i.target

@[simp] theorem options_perform (i : StyleInjector) (call : StyleCall) :
    (i.perform call).options = i.options := by
  cases call with
  | inject page t =>
    cases available : i.target.isAvailable with
    | true => exact (injected available page t).options
    | false => rw [perform, inject_of_unavailable available]
  | remove page =>
    rw [perform, remove]
    split <;> rfl
  | clear => rfl

/-! ## The invariant -/

/-- Elements and handles fit together. -/
structure Tidy (i : StyleInjector) : Prop where
  /-- A handle names the element of its page. -/
  labelled : ∀ page handle, i.applied.get? page = some handle →
    handle.elementId = i.options.elementId page
  /-- No two elements have one id. -/
  distinct : (i.target.elements.map StyleElement.id).Nodup
  /-- Some handle names each element. -/
  owned : ∀ e ∈ i.target.elements, ∃ page handle,
    i.applied.get? page = some handle ∧ handle.elementId = e.id

theorem tidy_new {target : StyleTarget} (empty : target.elements = []) (options : StyleOptions) :
    Tidy { target, options } where
  labelled _ _ found := by cases found
  distinct := by simp [empty]
  owned e he := by simp [empty] at he

theorem Tidy.inject (h : i.Tidy) (page : String) (t : ResolvedTheme) :
    (i.inject page t).2.Tidy := by
  cases available : i.target.isAvailable with
  | false => rwa [inject_of_unavailable available]
  | true =>
    have hinjected := injected available page t
    have helements := elements_inject available page t
    refine ⟨fun q handle found => ?_, ?_, fun e he => ?_⟩
    · rw [hinjected.options]
      rw [hinjected.applied, Table.get?_insert] at found
      split at found
      · rename_i hq
        cases found
        rw [hq]
        rfl
      · exact h.labelled q handle found
    · rw [helements, List.map_append, List.nodup_append]
      refine ⟨h.distinct.sublist (List.filter_sublist.map _), by simp, ?_⟩
      rintro _ hkept _ hnew rfl
      obtain ⟨e, he, hid⟩ := List.mem_map.1 hkept
      have hne : e.id ≠ i.options.elementId page := by simpa using (List.mem_filter.1 he).2
      exact hne (hid.trans (List.mem_singleton.1 hnew))
    · rw [helements, List.mem_append, List.mem_singleton] at he
      rw [hinjected.applied]
      rcases he with he | rfl
      · obtain ⟨he, hid⟩ := List.mem_filter.1 he
        obtain ⟨q, handle, found, hlabel⟩ := h.owned e he
        have hq : q ≠ page := by
          rintro rfl
          rw [← hlabel, h.labelled q handle found] at hid
          simp at hid
        exact ⟨q, handle, by rw [Table.get?_insert, if_neg hq, found], hlabel⟩
      · exact ⟨page, _, Table.get?_insert_self _ _ _, rfl⟩

theorem Tidy.remove (h : i.Tidy) (page : String) : (i.remove page).Tidy := by
  cases found : i.applied.get? page with
  | none => rwa [remove_of_not_applied found]
  | some handle =>
    rw [remove_of_applied found]
    refine ⟨fun q handle' found' => ?_, ?_, fun e he => ?_⟩
    · rw [Table.get?_erase] at found'
      split at found'
      · cases found'
      · exact h.labelled q handle' found'
    · rw [StyleTarget.elements_remove]
      exact h.distinct.sublist (List.filter_sublist.map _)
    · rw [StyleTarget.elements_remove] at he
      obtain ⟨he, hid⟩ := List.mem_filter.1 he
      obtain ⟨q, handle', found', hlabel⟩ := h.owned e he
      have hq : q ≠ page := by
        rintro rfl
        rw [found] at found'
        cases found'
        simp [hlabel] at hid
      exact ⟨q, handle', by rw [Table.get?_erase, if_neg hq, found'], hlabel⟩

/-- What each element is there for is applied, so clearing takes it away. -/
theorem Tidy.elements_clear (h : i.Tidy) : i.clear.target.elements = [] := by
  refine List.eq_nil_iff_forall_not_mem.2 fun e he => ?_
  obtain ⟨he, hkept⟩ := mem_elements_clear.1 he
  obtain ⟨page, handle, found, hlabel⟩ := h.owned e he
  exact hkept handle ((Table.mem_values_iff _ _).2 ⟨page, found⟩) hlabel

theorem Tidy.clear (h : i.Tidy) : i.clear.Tidy where
  labelled _ _ found := by cases found
  distinct := by simp [h.elements_clear]
  owned e he := by simp [h.elements_clear] at he

/-- **Every call keeps it.** -/
theorem Tidy.perform (h : i.Tidy) (call : StyleCall) : (i.perform call).Tidy := by
  cases call with
  | inject page t => exact h.inject page t
  | remove page => exact h.remove page
  | clear => exact h.clear

theorem Tidy.runCalls (h : i.Tidy) (calls : List StyleCall) : (runCalls calls i).Tidy :=
  runCalls_induction (fun call hi => hi.perform call) h calls

/-! ## Results -/

/-- Two injectors show the same: the elements in one order, and the handles. -/
structure SameStyles (i j : StyleInjector) : Prop where
  elements : i.target.elements = j.target.elements
  applied : i.applied = j.applied

/-- Of two themes for a page only the later one counts. -/
theorem sameStyles_inject_inject (i : StyleInjector) (page : String) (t u : ResolvedTheme) :
    SameStyles ((i.inject page t).2.inject page u).2 (i.inject page u).2 := by
  cases available : i.target.isAvailable with
  | false => rw [inject_of_unavailable available]; exact ⟨rfl, rfl⟩
  | true =>
    have hfirst := injected available page t
    have hsecond := injected hfirst.available page u
    constructor
    · rw [elements_inject hfirst.available, elements_inject available, elements_inject available,
        hfirst.options, List.filter_append, List.filter_filter]
      have hgone : ([i.options.element page t].filter fun e => e.id != i.options.elementId page) =
          [] := by simp [StyleOptions.element]
      simp [hgone]
    · rw [hsecond.applied, hfirst.applied, hfirst.options, Table.insert_insert,
        (injected available page u).applied]

/-- **No rule is left behind.** -/
theorem elements_runCalls {target : StyleTarget} (empty : target.elements = [])
    (options : StyleOptions) (calls : List StyleCall) :
    ((runCalls calls { target, options }).target.elements.map StyleElement.id).Nodup ∧
    (∀ e ∈ (runCalls calls { target, options }).target.elements, ∃ page handle,
      (runCalls calls { target, options }).applied.get? page = some handle ∧
        handle.elementId = e.id) ∧
    (runCalls calls { target, options }).clear.target.elements = [] ∧
    ∀ page t u, SameStyles
      (runCalls (calls ++ [.inject page t, .inject page u]) { target, options })
      (runCalls (calls ++ [.inject page u]) { target, options }) := by
  have htidy := (tidy_new empty options).runCalls calls
  refine ⟨htidy.distinct, htidy.owned, htidy.elements_clear, fun page t u => ?_⟩
  simp only [runCalls_append, runCalls_cons, runCalls_nil]
  exact sameStyles_inject_inject _ page t u

/-- A theme of one color. -/
def oneColor (color : String) : ResolvedTheme :=
  { id := color, name := color, displayName := color, category := .light,
    properties := Table.empty.insert "--color-bg" color, origin := .theme }

/-- Two pages have themes applied whose ids differ in a character that no element's id can have. -/
def twoPages : List StyleCall := [.inject "a b" (oneColor "red"), .inject "a.b" (oneColor "blue")]

theorem elements_of_twoPages :
    StyleTarget.emptyDocument.elements = [] ∧
    ((runCalls twoPages { target := .emptyDocument }).target.elements.map StyleElement.id).Nodup ∧
    (∀ e ∈ (runCalls twoPages { target := .emptyDocument }).target.elements, ∃ page handle,
      (runCalls twoPages { target := .emptyDocument }).applied.get? page = some handle ∧
        handle.elementId = e.id) ∧
    (runCalls twoPages { target := .emptyDocument }).clear.target.elements = [] ∧
    ∀ page t u, SameStyles
      (runCalls (twoPages ++ [.inject page t, .inject page u]) { target := .emptyDocument })
      (runCalls (twoPages ++ [.inject page u]) { target := .emptyDocument }) :=
  ⟨rfl, elements_runCalls rfl {} twoPages⟩

end StyleInjector

end ThemedPages
