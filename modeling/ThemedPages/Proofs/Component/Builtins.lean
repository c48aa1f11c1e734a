import ThemedPages.Component.Builtin

/-!
# Pages with builtin component types

Component types are registered for one page at a time, and a later one stands over an earlier one
with its name.

**Theorem (`hasBuiltins_registerBuiltins`).** A page that had no component types but builtin ones
has exactly these once they are registered for it; `hasBuiltins_registerEach` says so of many pages.
-/

namespace ThemedPages.ComponentRegistry

variable {r : ComponentRegistry} {page q name : String} {type : ComponentType}

theorem get?_register (r : ComponentRegistry) (page name : String) (type : ComponentType)
    (q n : String) :
    (r.register page name type).get? q n =
      if q = page ∧ n = name then some type else r.get? q n := by
  unfold get? ofPage register
  rw [Table.get?_insert]
  by_cases hq : q = page
  · subst hq
    simp [Table.get?_insert, ofPage]
  · simp [hq]

/-- A page has no component types but builtin ones. -/
def OnlyBuiltins (r : ComponentRegistry) (page : String) : Prop :=
  ∀ name type, r.get? page name = some type → (name, type) ∈ Builtin.all

/-- A page has the builtin component types, and no others. -/
def HasBuiltins (r : ComponentRegistry) (page : String) : Prop :=
  ∀ name type, r.get? page name = some type ↔ (name, type) ∈ Builtin.all

theorem HasBuiltins.onlyBuiltins (h : r.HasBuiltins page) : r.OnlyBuiltins page :=
  fun name type => (h name type).1

/-- A page has the component types of which it has the names. -/
theorem HasBuiltins.contains_iff (h : r.HasBuiltins page) (name : String) :
    r.contains page name = true ↔ name ∈ Builtin.all.map Prod.fst := by
  rw [contains, Table.contains_iff, List.mem_map]
  constructor
  · rintro ⟨type, found⟩
    exact ⟨(name, type), (h name type).1 found, rfl⟩
  · rintro ⟨⟨_, type⟩, found, rfl⟩
    exact ⟨type, (h _ type).2 found⟩

theorem get?_registerBuiltins_of_ne (hq : q ≠ page) (name : String) :
    (r.registerBuiltins page).get? q name = r.get? q name := by
  unfold registerBuiltins
  generalize Builtin.all = types
  induction types generalizing r with
  | nil => rfl
  | cons c types ih => rw [List.foldl_cons, ih, get?_register, if_neg fun h => hq h.1]

/-- Of component types with different names each is there, over whatever had its name. -/
theorem get?_foldl_register {types : List (String × ComponentType)}
    (distinct : (types.map Prod.fst).Nodup) (r : ComponentRegistry) (page name : String)
    (type : ComponentType) :
    (types.foldl (fun r c => r.register page c.1 c.2) r).get? page name = some type ↔
      (name, type) ∈ types ∨ name ∉ types.map Prod.fst ∧ r.get? page name = some type := by
  induction types generalizing r with
  | nil => simp
  | cons c types ih =>
    obtain ⟨cname, ctype⟩ := c
    rw [List.map_cons, List.nodup_cons] at distinct
    rw [List.foldl_cons, ih distinct.2, get?_register]
    by_cases hname : name = cname
    · subst hname
      have hnot : (name, type) ∉ types := fun hmem =>
        distinct.1 (List.mem_map.2 ⟨_, hmem, rfl⟩)
      simp [hnot, distinct.1, eq_comm]
    · simp [hname]

/-- **Registering the builtin component types.** -/
theorem hasBuiltins_registerBuiltins (h : r.OnlyBuiltins page) :
    (r.registerBuiltins page).HasBuiltins page := by
  intro name type
  refine (get?_foldl_register (by decide) r page name type).trans ?_
  refine or_iff_left_of_imp ?_
  rintro ⟨habsent, found⟩
  exact absurd (List.mem_map.2 ⟨_, h name type found, rfl⟩) habsent

/-! ## Several pages -/

theorem get?_registerEach_of_not_mem {pages : List String} (hq : q ∉ pages) (name : String) :
    (pages.foldl registerBuiltins r).get? q name = r.get? q name := by
  induction pages generalizing r with
  | nil => rfl
  | cons page pages ih =>
    rw [List.mem_cons, not_or] at hq
    rw [List.foldl_cons, ih hq.2, get?_registerBuiltins_of_ne hq.1]

theorem OnlyBuiltins.registerBuiltins (h : r.OnlyBuiltins q) (page : String) :
    (r.registerBuiltins page).OnlyBuiltins q := by
  by_cases hq : q = page
  · exact hq ▸ (hasBuiltins_registerBuiltins (hq ▸ h)).onlyBuiltins
  · intro name type found
    rw [get?_registerBuiltins_of_ne hq] at found
    exact h name type found

theorem OnlyBuiltins.registerEach (h : r.OnlyBuiltins q) (pages : List String) :
    (pages.foldl ComponentRegistry.registerBuiltins r).OnlyBuiltins q := by
  induction pages generalizing r with
  | nil => exact h
  | cons page pages ih => exact ih (h.registerBuiltins page)

theorem hasBuiltins_registerEach {pages : List String} (h : r.OnlyBuiltins page)
    (hpage : page ∈ pages) : (pages.foldl registerBuiltins r).HasBuiltins page := by
  induction pages generalizing r with
  | nil => nomatch hpage
  | cons p pages ih =>
    rw [List.foldl_cons]
    by_cases hrest : page ∈ pages
    · exact ih (h.registerBuiltins p) hrest
    · have hp : page = p := (List.mem_cons.1 hpage).resolve_right hrest
      intro name type
      rw [get?_registerEach_of_not_mem hrest]
      exact hp ▸ hasBuiltins_registerBuiltins h name type

end ThemedPages.ComponentRegistry
