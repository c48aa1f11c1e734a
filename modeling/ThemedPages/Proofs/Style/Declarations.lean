import Mathlib.Data.List.Basic
import ThemedPages.Proofs.Style.Reading
import ThemedPages.Proofs.Style.SharedElements

/-!
# What the element of a page declares

The properties that are declared for a page have names of plain characters, and no value has a
character that ends a declaration, a block or a line. A value may still open something that does not
end with it: a string, a comment, a bracket, or an escape at its end.

**Theorem (`readRules_injected_iff`).** The element of a page with a plain id is read back as its
rules, each with the declarations it was given, iff nothing is open at the end of any value.
-/

namespace ThemedPages

open Css

/-! ## Selectors -/

/-- A plain character is none of the others. -/
theorem ne_of_isNameChar {c d : Char} (hc : isNameChar c = true) (hd : isNameChar d = false) :
    c ≠ d := by
  intro h
  rw [h, hd] at hc
  cases hc

/-- A character of a plain name stands for itself everywhere. -/
theorem isNameChar_inert {c : Char} (hc : isNameChar c = true) :
    isInert c = true ∧ isStop c = false ∧ isSpace c = false ∧ c ≠ ':' := by
  have hne := fun d => ne_of_isNameChar (d := d) hc
  refine ⟨?_, ?_, ?_, hne ':' rfl⟩
  · simp [isInert, hne '/' rfl, hne '*' rfl, hne '"' rfl, hne '\'' rfl, hne '\\' rfl, hne '(' rfl,
      hne '[' rfl]
  · simp [isStop, hne '\x7b' rfl, hne '\x7d' rfl, hne ';' rfl]
  · simp [isSpace, isLineEnd, hne ' ' rfl, hne '\t' rfl, hne '\n' rfl, hne '\r' rfl, hne '\x0c' rfl]

theorem quotedPage_of_plain {page : String} (plain : ∀ c ∈ page.toList, isNameChar c = true) :
    quotedPage page = page.toList := by
  rw [quotedPage, List.flatMap_congr (g := fun c => [c]), List.flatMap_singleton']
  intro c hc
  have hbackslash := ne_of_isNameChar (d := '\\') (plain c hc) rfl
  have hquote := ne_of_isNameChar (d := '"') (plain c hc) rfl
  simp [hbackslash, hquote]

/-- Plain characters do not end a string. -/
theorem after_of_plain {cs : List Char} (plain : ∀ c ∈ cs, isNameChar c = true)
    (closers : List Char) : (⟨.string '"', closers⟩ : Point).after cs = ⟨.string '"', closers⟩ := by
  induction cs with
  | nil => rfl
  | cons c cs ih =>
    have hne := fun d => ne_of_isNameChar (d := d) (plain c List.mem_cons_self)
    have hstep : (⟨.string '"', closers⟩ : Point).step c = ⟨.string '"', closers⟩ := by
      simp [Point.step, isLineEnd, hne '"' rfl, hne '\\' rfl, hne '\n' rfl, hne '\r' rfl,
        hne '\x0c' rfl]
    rw [Point.after, List.foldl_cons, hstep]
    exact ih fun c hc => plain c (List.mem_cons_of_mem _ hc)

/-- The selector of a page with a plain id, when nothing else is chosen. -/
theorem readable_selectorOf {page : String} (plain : ∀ c ∈ page.toList, isNameChar c = true) :
    Readable (({} : StyleOptions).selectorOf page) := by
  have htext := toList_selectorOf_default page
  rw [quotedPage_of_plain plain] at htext
  have hstart : (({} : Point).after "[data-page-id=\"".toList) = ⟨.string '"', [']']⟩ := by decide
  constructor
  · rw [htext]
    simp
  · intro c hc
    rw [htext, List.mem_append, List.mem_append] at hc
    rcases hc with hc | hc | hc
    · simpa using List.all_eq_true.1
        (by decide : "[data-page-id=\"".toList.all (!isStop ·) = true) c hc
    · exact (isNameChar_inert (plain c hc)).2.1
    · simpa using List.all_eq_true.1 (by decide : "\"]".toList.all (!isStop ·) = true) c hc
  · rw [htext, Point.after_append, Point.after_append, hstart, after_of_plain plain]
    decide
  · intro c hc
    rw [htext] at hc
    cases hc
    rfl
  · intro c hc
    rw [htext, ← List.append_assoc, List.getLast?_append] at hc
    cases hc
    rfl

theorem readable_root : Readable ({} : StyleOptions).rootSelector where
  ne := by decide
  no_stop c hc := by
    simpa using List.all_eq_true.1 (by decide : ":root".toList.all (!isStop ·) = true) c hc
  free := by decide
  first c hc := by
    cases hc
    rfl
  last c hc := by
    cases hc
    rfl

/-! ## Declarations -/

/-- Only what can stand in a declaration is declared. -/
theorem declarable_of_mem_safeDeclarations {properties : Styles} {d : String × String}
    (hd : d ∈ safeDeclarations properties) : Declarable d := by
  rw [safeDeclarations, List.mem_filter, Bool.and_eq_true] at hd
  obtain ⟨-, hname, hvalue⟩ := hd
  have hchars : d.1.toList ≠ [] ∧ ∀ c ∈ d.1.toList, isNameChar c = true := by
    unfold isPropertyName at hname
    split at hname
    · rename_i rest htext
      rw [htext]
      refine ⟨by simp, ?_⟩
      simpa [isNameChar] using hname
    · cases hname
  refine ⟨hchars.1, fun c hc => isNameChar_inert (hchars.2 c hc), ?_⟩
  intro c hc
  have hsafe : isUnsafeChar c = false := by
    simp only [Bool.not_eq_true', List.any_eq_false] at hvalue
    simpa using hvalue c hc
  simp only [isUnsafeChar, Bool.or_eq_false_iff] at hsafe
  simp [isStop, hsafe]

/-- The rules of an element have the selectors of its page and the declarations of its theme. -/
theorem readRules_element_iff {o : StyleOptions} {page : String}
    (container : Readable (o.selectorOf page)) (root : Readable o.rootSelector)
    (t : ResolvedTheme) :
    readRules (o.element page t).css = (o.element page t).rules ↔
      ∀ d ∈ safeDeclarations t.properties, Contained d.2 := by
  have hrules : ∀ r ∈ (o.element page t).rules,
      Readable r.selector ∧ r.declarations = safeDeclarations t.properties := by
    intro r hr
    rcases List.mem_cons.1 hr with rfl | hr
    · exact ⟨container, rfl⟩
    · split at hr
      · rw [List.mem_singleton.1 hr]
        exact ⟨root, rfl⟩
      · cases hr
  rw [readRules_css_iff _ fun r hr => (hrules r hr).1]
  · constructor
    · intro h d hd
      exact h _ List.mem_cons_self d hd
    · intro h r hr d hd
      rw [(hrules r hr).2] at hd
      exact h d hd
  · intro r hr d hd
    rw [(hrules r hr).2] at hd
    exact declarable_of_mem_safeDeclarations hd

namespace StyleInjector

/-- **What the element of a page is read as.** -/
theorem readRules_injected_iff {i : StyleInjector} {page : String}
    (available : i.target.isAvailable = true)
    (container : i.options.containerSelector = ({} : StyleOptions).containerSelector)
    (root : i.options.rootSelector = ({} : StyleOptions).rootSelector)
    (plain : ∀ c ∈ page.toList, isNameChar c = true) (t : ResolvedTheme) :
    ∃ e, (i.inject page t).2.target.element? (i.options.elementId page) = some e ∧
      e = i.options.element page t ∧
      (readRules e.css = e.rules ↔ ∀ d ∈ safeDeclarations t.properties, Contained d.2) := by
  have hselector : i.options.selectorOf page = ({} : StyleOptions).selectorOf page := by
    rw [StyleOptions.selectorOf, container, StyleOptions.selectorOf]
  refine ⟨i.options.element page t, ?_, rfl, readRules_element_iff ?_ ?_ t⟩
  · rw [(injected available page t).element?, if_pos rfl]
  · rw [hselector]
    exact readable_selectorOf plain
  · rw [root]
    exact readable_root

theorem readRules_injected_home :
    StyleTarget.emptyDocument.isAvailable = true ∧ (∀ c ∈ "home".toList, isNameChar c = true) ∧
    ∃ e, (inject { target := .emptyDocument } "home" (oneColor "red")).2.target.element?
        "page-theme-home" = some e ∧
      e = ({} : StyleOptions).element "home" (oneColor "red") ∧
      (readRules e.css = e.rules ↔
        ∀ d ∈ safeDeclarations (oneColor "red").properties, Contained d.2) :=
  have plain : ∀ c ∈ "home".toList, isNameChar c = true := List.all_eq_true.1 (by decide)
  ⟨rfl, plain, readRules_injected_iff rfl rfl rfl plain _⟩

/-- A theme with the beginning of a comment for a color, and a color after it. -/
def halfComment : ResolvedTheme :=
  { oneColor "red" with
    properties := (Table.empty.insert "--color-a" "/*").insert "--color-b" "red" }

/-- **A block that is lost.** The comment takes in the end of its block and the next rule. -/
theorem rules_lost :
    safeDeclarations halfComment.properties = [("--color-a", "/*"), ("--color-b", "red")] ∧
    ∃ e, (inject { target := .emptyDocument } "home" halfComment).2.target.element?
        "page-theme-home" = some e ∧
      e.rules.map (fun r => (r.selector, r.declarations.map Prod.fst)) =
        [("[data-page-id=\"home\"]", ["--color-a", "--color-b"]),
          (":root", ["--color-a", "--color-b"])] ∧
      (readRules e.css).map (fun r => (r.selector, r.declarations.map Prod.fst)) =
        [("[data-page-id=\"home\"]", ["--color-a"])] :=
  ⟨by decide, _, rfl, by decide +kernel, by decide +kernel⟩

end StyleInjector

end ThemedPages
