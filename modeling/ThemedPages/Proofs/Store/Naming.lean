import ThemedPages.Proofs.Store.Loading

/-!
# Ids that assignments name

An assignment names the id of a theme, and that of a variation if it leads to one. Deleting a record
leaves the assignments that name it, and the ids of new records are chosen without regard to
assignments: an id that is named and that no record has may be given again (`CanGive`), unless its
number was passed by.

**Theorem (`Anchored.change`).** If every id of the form that new records get, as far as it is named
or taken and its number is still to come, belongs to a system theme or to a variation of one, then
that stays so, as long as only records that are there are assigned.
-/

namespace ThemedPages

/-- The ids that an assignment names. -/
def AssignmentTarget.Names (target : AssignmentTarget) (id : String) : Prop :=
  target.themeId = id ∨ target.variationId = some id

namespace MemoryStore

/-- Some assignment names an id. -/
def Names (s : MemoryStore) (id : String) : Prop :=
  ∃ page a, s.assignments.get? page = some a ∧ a.target.Names id

/-- There is a record under a key. -/
def Holds (s : MemoryStore) : ThemeKey → Prop
  | .theme id => ∃ t, s.themes.get? id = some t
  | .variation id => ∃ v, s.variations.get? id = some v

/-- The kinds of records, as they show in ids. -/
inductive IsKind : String → Prop
  | theme : IsKind "theme"
  | variation : IsKind "variation"

/-- A record of a kind can be created as the next one: a variation needs a theme. -/
def CanCreate (s : MemoryStore) (kind : String) : Prop :=
  kind = "theme" ∨ (kind = "variation" ∧ ∃ id t, s.themes.get? id = some t)

/-- An id that a new record may still get. Its number is still to come, and no record has it. While
there is no theme the next number goes to a theme. -/
inductive CanGive (s : MemoryStore) : String → Prop
  | ahead {kind : String} {n : Nat} (isKind : IsKind kind)
      (free : s.hasId (numberedId kind n) = false)
      (later : s.lastNumber + 1 < n ∨ (s.lastNumber + 1 = n ∧ s.CanCreate kind)) :
      CanGive s (numberedId kind n)

/-- A system theme, or a variation of one, has the id. -/
def Permanent (s : MemoryStore) (id : String) : Prop :=
  (∃ t, s.themes.get? id = some t ∧ t.isSystem = true) ∨
    ∃ v t, s.variations.get? id = some v ∧ s.themes.get? v.parentId = some t ∧ t.isSystem = true

/-- No id that a new record may get, now or after deletions, is named or can come to be. -/
def Anchored (s : MemoryStore) : Prop :=
  ∀ kind n, IsKind kind → s.lastNumber < n →
    s.hasId (numberedId kind n) = true ∨ s.Names (numberedId kind n) →
      s.Permanent (numberedId kind n)

variable {s s' : MemoryStore} {id : String}

/-! ## Numbered ids of two kinds -/

theorem theme_ne_variation (m n : Nat) : numberedId "theme" m ≠ numberedId "variation" n := by
  intro h
  have hfirst := congrArg (fun id : String => id.toList.head?) h
  simp [numberedId] at hfirst

theorem numberedId_eq_iff {kind kind' : String} (hk : IsKind kind) (hk' : IsKind kind')
    {m n : Nat} :
    numberedId kind m = numberedId kind' n ↔ kind = kind' ∧ m = n := by
  constructor
  · intro h
    cases hk <;> cases hk'
    · exact ⟨rfl, numberedId_injective h⟩
    · exact absurd h (theme_ne_variation m n)
    · exact absurd h.symm (theme_ne_variation n m)
    · exact ⟨rfl, numberedId_injective h⟩
  · rintro ⟨rfl, rfl⟩
    rfl

/-- A free number that is still to come is not passed by. -/
theorem freshNumber_le {kind : String} {n : Nat} (hn : s.lastNumber < n)
    (free : s.hasId (numberedId kind n) = false) : s.freshNumber kind ≤ n := by
  by_contra hlt
  have htaken := s.hasId_of_lt_freshNumber kind hn (Nat.lt_of_not_le hlt)
  rw [free] at htaken
  cases htaken

theorem hasId_eq_true_iff : s.hasId id = true ↔ ∃ key : ThemeKey, key.id = id ∧ s.Holds key := by
  simp only [hasId, Bool.or_eq_true, Table.contains_iff]
  constructor
  · rintro (ht | hv)
    · exact ⟨.theme id, rfl, ht⟩
    · exact ⟨.variation id, rfl, hv⟩
  · rintro ⟨key, rfl, hkey⟩
    cases key with
    | theme => exact .inl hkey
    | variation => exact .inr hkey

/-- Where there is a record, there is a theme. -/
theorem Integrity.exists_theme (h : s.Integrity) (hid : s.hasId id = true) :
    ∃ q t, s.themes.get? q = some t := by
  obtain ⟨key, -, hkey⟩ := hasId_eq_true_iff.1 hid
  cases key with
  | theme q =>
    obtain ⟨t, ht⟩ := hkey
    exact ⟨q, t, ht⟩
  | variation q =>
    obtain ⟨v, hv⟩ := hkey
    exact ⟨v.parentId, h.parent q v hv⟩

theorem CanCreate.isKind {kind : String} (h : s.CanCreate kind) : IsKind kind := by
  rcases h with rfl | ⟨rfl, -⟩
  · exact .theme
  · exact .variation

theorem canGive_freshNumber {kind : String} (h : s.CanCreate kind) :
    s.CanGive (numberedId kind (s.freshNumber kind)) := by
  refine .ahead h.isKind (s.hasId_freshNumber kind) ?_
  rcases Nat.lt_or_eq_of_le (s.lastNumber_lt_freshNumber kind) with hlt | heq
  · exact .inl hlt
  · exact .inr ⟨heq, h⟩

theorem Permanent.hasId (h : s.Permanent id) : s.hasId id = true := by
  rw [hasId_eq_true_iff]
  rcases h with ⟨t, ht, -⟩ | ⟨v, t, hv, -⟩
  · exact ⟨.theme id, rfl, t, ht⟩
  · exact ⟨.variation id, rfl, v, hv⟩

/-! ## What changes leave -/

theorem systemTheme_ne_custom {q : String} {t u : Theme} (ht : s.themes.get? id = some t)
    (system : t.isSystem = true) (hu : s.themes.get? q = some u) (custom : u.isSystem = false) :
    id ≠ q := by
  rintro rfl
  rw [ht] at hu
  cases hu
  rw [system] at custom
  cases custom

/-- A system theme stays one. -/
theorem systemTheme_change {call : StoreCall} (hc : Change s call s') {t : Theme}
    (ht : s.themes.get? id = some t) (system : t.isSystem = true) :
    ∃ t', s'.themes.get? id = some t' ∧ t'.isSystem = true := by
  cases hc with
  | createTheme d next named unused =>
    subst next named
    have hid := theme_ne_of_free (s.hasId_freshNumber "theme") ht
    refine ⟨{ t with isDefault := !d.isDefault && t.isDefault }, ?_, system⟩
    simp only [Table.get?_insert, if_neg hid, get?_demoted, ht, Option.map_some]
  | updateTheme p found custom =>
    refine ⟨t, ?_, system⟩
    rw [Table.get?_insert, if_neg (systemTheme_ne_custom ht system found custom), ht]
  | deleteTheme found custom ordinary =>
    refine ⟨t, ?_, system⟩
    rw [Table.get?_erase, if_neg (systemTheme_ne_custom ht system found custom), ht]
  | @setDefaultTheme chosen _ found =>
    refine ⟨{ t with isDefault := t.id == chosen }, ?_, system⟩
    rw [Table.get?_map, ht, Option.map_some]
  | nothing | createVariation | assign | deleteAssignment | setOffline => exact ⟨t, ht, system⟩

/-- A variation of a system theme stays as it is. -/
theorem systemVariation_change {call : StoreCall} (hc : Change s call s') {v : Variation}
    {t : Theme} (hv : s.variations.get? id = some v) (ht : s.themes.get? v.parentId = some t)
    (system : t.isSystem = true) : s'.variations.get? id = some v := by
  cases hc with
  | deleteTheme found custom ordinary =>
    rw [Table.get?_filter, hv, Option.filter_eq_some_iff]
    exact ⟨rfl, bne_iff_ne.2 (systemTheme_ne_custom ht system found custom)⟩
  | createVariation d next named found unused =>
    subst next named
    have hid := variation_ne_of_free (s.hasId_freshNumber "variation") hv
    rw [Table.get?_insert, if_neg hid, hv]
  | nothing | createTheme | updateTheme | setDefaultTheme | assign | deleteAssignment
  | setOffline => exact hv

theorem Permanent.change {call : StoreCall} (h : s.Permanent id) (hc : Change s call s') :
    s'.Permanent id := by
  rcases h with ⟨t, ht, system⟩ | ⟨v, t, hv, ht, system⟩
  · exact .inl (systemTheme_change hc ht system)
  · obtain ⟨t', ht', system'⟩ := systemTheme_change hc ht system
    exact .inr ⟨v, t', systemVariation_change hc hv ht system, ht', system'⟩

theorem lastNumber_le_change {call : StoreCall} (hc : Change s call s') :
    s.lastNumber ≤ s'.lastNumber := by
  cases hc with
  | createTheme d next | createVariation d next =>
    subst next
    exact Nat.le_of_lt (s.lastNumber_lt_freshNumber _)
  | _ => exact Nat.le_refl _

/-- Records come to be under fresh ids only. -/
theorem holds_change {call : StoreCall} (hc : Change s call s') {key : ThemeKey}
    (h : s'.Holds key) : s.Holds key ∨ ∃ kind, s.CanCreate kind ∧
      key.id = numberedId kind (s.freshNumber kind) ∧ s'.lastNumber = s.freshNumber kind := by
  cases hc with
  | createTheme d next named unused =>
    subst next named
    cases key with
    | variation id => exact .inl h
    | theme id =>
      obtain ⟨t, ht⟩ := h
      rw [Table.get?_insert] at ht
      split_ifs at ht with hid
      · exact .inr ⟨"theme", .inl rfl, hid, rfl⟩
      · rw [get?_demoted] at ht
        obtain ⟨u, hu, -⟩ := Option.map_eq_some_iff.1 ht
        exact .inl ⟨u, hu⟩
  | updateTheme p found custom =>
    cases key with
    | variation id => exact .inl h
    | theme id =>
      obtain ⟨t, ht⟩ := h
      rw [Table.get?_insert] at ht
      split_ifs at ht with hid
      · exact .inl ⟨_, hid ▸ found⟩
      · exact .inl ⟨t, ht⟩
  | deleteTheme found custom ordinary =>
    cases key with
    | theme id =>
      obtain ⟨t, ht⟩ := h
      rw [Table.get?_erase] at ht
      split_ifs at ht
      exact .inl ⟨t, ht⟩
    | variation id =>
      obtain ⟨v, hv⟩ := h
      rw [Table.get?_filter, Option.filter_eq_some_iff] at hv
      exact .inl ⟨v, hv.1⟩
  | setDefaultTheme found =>
    cases key with
    | variation id => exact .inl h
    | theme id =>
      obtain ⟨t, ht⟩ := h
      rw [Table.get?_map] at ht
      obtain ⟨u, hu, -⟩ := Option.map_eq_some_iff.1 ht
      exact .inl ⟨u, hu⟩
  | createVariation d next named found unused =>
    subst next named
    cases key with
    | theme id => exact .inl h
    | variation id =>
      obtain ⟨v, hv⟩ := h
      rw [Table.get?_insert] at hv
      split_ifs at hv with hid
      · exact .inr ⟨"variation", .inr ⟨rfl, _, _, found⟩, hid, rfl⟩
      · exact .inl ⟨v, hv⟩
  | nothing | assign | deleteAssignment | setOffline => cases key <;> exact .inl h

/-- An id whose number is still to come after a change was taken before it. The record that a change
adds has the number that was given last. -/
theorem hasId_of_later {call : StoreCall} (hc : Change s call s') {kind : String} {n : Nat}
    (isKind : IsKind kind) (later : s'.lastNumber < n)
    (taken : s'.hasId (numberedId kind n) = true) : s.hasId (numberedId kind n) = true := by
  obtain ⟨key, hkey, hholds⟩ := hasId_eq_true_iff.1 taken
  rcases holds_change hc hholds with hholds | ⟨kind', hk', heq, hlast⟩
  · exact hasId_eq_true_iff.2 ⟨key, hkey, hholds⟩
  · have hnumber := ((numberedId_eq_iff isKind hk'.isKind).1 (hkey.symm.trans heq)).2
    omega

theorem assignments_change {call : StoreCall} (hc : Change s call s') (page : String)
    (hassign : ∀ target, call ≠ .assign page target) (hdelete : call ≠ .deleteAssignment page) :
    s'.assignments.get? page = s.assignments.get? page := by
  cases hc with
  | assign page' target complete =>
    rw [Table.get?_insert, if_neg]
    rintro rfl
    exact hassign target rfl
  | deleteAssignment page' =>
    rw [Table.get?_erase, if_neg]
    rintro rfl
    exact hdelete rfl
  | _ => rfl

/-- Only an assignment makes ids named. -/
theorem names_change {call : StoreCall} (hc : Change s call s') (h : s'.Names id) :
    s.Names id ∨ ∃ page target, call = .assign page target ∧ target.Names id := by
  obtain ⟨page, a, ha, hid⟩ := h
  cases hc with
  | assign page' target complete =>
    rw [Table.get?_insert] at ha
    split_ifs at ha
    · cases ha
      exact .inr ⟨page', target, rfl, hid⟩
    · exact .inl ⟨page, a, ha, hid⟩
  | deleteAssignment page' =>
    rw [Table.get?_erase] at ha
    split_ifs at ha
    exact .inl ⟨page, a, ha, hid⟩
  | nothing | createTheme | updateTheme | deleteTheme | setDefaultTheme | createVariation
  | setOffline => exact .inl ⟨page, a, ha, hid⟩

/-- **An anchored store stays anchored**, as long as only records that are there are assigned. -/
theorem Anchored.change {call : StoreCall} (h : s.Anchored) (hc : Change s call s')
    (known : ∀ page target, call = .assign page target → ∀ id, target.Names id →
      s.hasId id = true) : s'.Anchored := by
  intro kind n hk hn hid
  have hn' : s.lastNumber < n := Nat.lt_of_le_of_lt (lastNumber_le_change hc) hn
  refine Permanent.change (h kind n hk hn' ?_) hc
  rcases hid with hid | hid
  · exact .inl (hasId_of_later hc hk hn hid)
  · rcases names_change hc hid with hid | ⟨page, target, rfl, hid⟩
    · exact .inr hid
    · exact .inl (known page target rfl _ hid)

end MemoryStore

end ThemedPages
