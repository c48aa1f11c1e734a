import ThemedPages.Table
import Mathlib.Data.List.Dedup
import Mathlib.Data.List.Induction
import Mathlib.Data.List.Perm.Basic

/-!
# Tables from lists of rows

What is left of a list of rows that is put into a table. The keys are those of the list, each once,
and the value of a key is the last one it has in the list.

**Theorem (`values_ofList_perm_iff`).** The values of a table are those of the list it was made
from, each as often as there, just when no key stands twice in the list.

**Theorem (`ofList_entries`).** A table is made again from its rows.

Where rows are put under keys of their own, no row is lost just when no two have one key
(`values_keyed_perm_iff`), and a key has the last row that is under it (`get?_keyed_eq_some_iff`).
-/

namespace ThemedPages.Table

variable {α : Type u} {t : Table α} {rows : List (String × α)} {k : String} {x : α}

theorem ofList_concat (rows : List (String × α)) (k : String) (x : α) :
    ofList (rows ++ [(k, x)]) = (ofList rows).insert k x := by
  simp [ofList, List.foldl_append]

/-! ## Rows of a table -/

theorem nodup_keys (t : Table α) : t.keys.Nodup := by
  have hne : t.entries.Pairwise fun a b => a.1 ≠ b.1 := by
    refine t.sorted.imp fun {a b} hlt => ?_
    intro heq
    rw [heq] at hlt
    exact String.lt_irrefl b.1 hlt
  exact List.pairwise_map.2 hne

theorem insertRow_perm {rows : List (String × α)} (h : k ∉ rows.map Prod.fst) :
    (insertRow k x rows).Perm ((k, x) :: rows) := by
  induction rows with
  | nil => exact List.Perm.refl _
  | cons head rest ih =>
    obtain ⟨k', y⟩ := head
    simp only [List.map_cons, List.mem_cons, not_or] at h
    unfold insertRow
    split
    · exact List.Perm.refl _
    · split
      · exact ((ih h.2).cons (k', y)).trans (List.Perm.swap _ _ _)
      · rename_i hle hge
        exact absurd (String.le_antisymm (String.not_lt.1 hge) (String.not_lt.1 hle)) h.1

/-- A row that is put behind all others comes last. -/
theorem insertRow_concat {rows : List (String × α)} (h : ∀ r ∈ rows, r.1 < k) :
    insertRow k x rows = rows ++ [(k, x)] := by
  induction rows with
  | nil => rfl
  | cons head rest ih =>
    obtain ⟨k', y⟩ := head
    have hlt : k' < k := h (k', y) List.mem_cons_self
    have hnot : ¬ k < k' := fun hgt => String.lt_irrefl k (String.lt_trans hgt hlt)
    rw [insertRow, if_neg hnot, if_pos hlt, ih fun r hr => h r (List.mem_cons_of_mem _ hr)]
    rfl

/-! ## What holds of all rows -/

theorem forall_insert {P : String → α → Prop} (h : ∀ q y, t.get? q = some y → P q y)
    (new : P k x) : ∀ q y, (t.insert k x).get? q = some y → P q y := by
  intro q y hq
  rw [get?_insert] at hq
  by_cases hk : q = k
  · rw [if_pos hk] at hq
    cases hq
    exact hk ▸ new
  · rw [if_neg hk] at hq
    exact h q y hq

theorem forall_erase {P : String → α → Prop} (h : ∀ q y, t.get? q = some y → P q y)
    (k : String) : ∀ q y, (t.erase k).get? q = some y → P q y := by
  intro q y hq
  rw [get?_erase] at hq
  by_cases hk : q = k
  · rw [if_pos hk] at hq
    cases hq
  · rw [if_neg hk] at hq
    exact h q y hq

/-! ## Tables from lists -/

theorem contains_ofList_iff (rows : List (String × α)) (q : String) :
    (ofList rows).contains q = true ↔ q ∈ rows.map Prod.fst := by
  induction rows using List.reverseRecOn with
  | nil => simp [ofList, contains]
  | append_singleton rows r ih =>
    obtain ⟨k, x⟩ := r
    rw [ofList_concat, contains_insert_iff, ih, List.map_append, List.mem_append, or_comm]
    simp

/-- **The keys of a list, each once.** -/
theorem keys_ofList_perm (rows : List (String × α)) :
    (ofList rows).keys.Perm (rows.map Prod.fst).dedup := by
  refine (List.perm_ext_iff_of_nodup (nodup_keys _) (List.nodup_dedup _)).2 fun q => ?_
  rw [mem_keys_iff, contains_ofList_iff, List.mem_dedup]

theorem entries_ofList_perm (h : (rows.map Prod.fst).Nodup) : (ofList rows).entries.Perm rows := by
  induction rows using List.reverseRecOn with
  | nil => exact List.Perm.refl _
  | append_singleton rows r ih =>
    obtain ⟨k, x⟩ := r
    rw [List.map_append, List.nodup_append] at h
    have hnew : k ∉ (ofList rows).entries.map Prod.fst := by
      intro hk
      have hmem := (contains_ofList_iff rows k).1 ((mem_keys_iff _ k).1 hk)
      exact h.2.2 k hmem k (by simp) rfl
    rw [ofList_concat]
    exact (insertRow_perm hnew).trans
      (((ih h.1).cons (k, x)).trans (List.perm_append_singleton (k, x) rows).symm)

/-- **No value is lost just when no key stands twice.** -/
theorem values_ofList_perm_iff (rows : List (String × α)) :
    (ofList rows).values.Perm (rows.map Prod.snd) ↔ (rows.map Prod.fst).Nodup := by
  constructor
  · intro h
    have hkeys : (rows.map Prod.fst).dedup.length = (rows.map Prod.fst).length := by
      have hlen := h.length_eq
      simp only [values, List.length_map] at hlen
      rw [← (keys_ofList_perm rows).length_eq, keys, List.length_map, List.length_map, hlen]
    rw [← (List.dedup_sublist _).eq_of_length hkeys]
    exact List.nodup_dedup _
  · exact fun h => (entries_ofList_perm h).map Prod.snd

/-- **A table is made again from its rows.** -/
@[simp] theorem ofList_entries (t : Table α) : ofList t.entries = t := by
  have happend : ∀ rest rows : List (String × α), (rows ++ rest).Pairwise (fun a b => a.1 < b.1) →
      ∀ s : Table α, s.entries = rows →
        (rest.foldl (fun t r => t.insert r.1 r.2) s).entries = rows ++ rest := by
    intro rest
    induction rest with
    | nil =>
      intro rows _ s hs
      rw [List.foldl_nil, hs, List.append_nil]
    | cons r rest ih =>
      obtain ⟨k, x⟩ := r
      intro rows hsorted s hs
      have hbefore : ∀ r ∈ rows, r.1 < k := fun r hr =>
        (List.pairwise_append.1 hsorted).2.2 r hr (k, x) List.mem_cons_self
      have hstep : (s.insert k x).entries = rows ++ [(k, x)] := by
        rw [← hs] at hbefore ⊢
        exact insertRow_concat hbefore
      rw [List.foldl_cons, ih (rows ++ [(k, x)]) (by simpa using hsorted) _ hstep]
      simp
  apply ext_entries
  exact happend t.entries [] t.sorted empty rfl

/-! ## Rows under their own keys -/

/-- The table of some rows, each under its own key. -/
def keyed (key : α → String) (xs : List α) : Table α := ofList (xs.map fun x => (key x, x))

variable {key : α → String} {xs : List α}

theorem keyed_eq_foldl (key : α → String) (xs : List α) :
    keyed key xs = xs.foldl (fun t x => t.insert (key x) x) empty := by
  rw [keyed, ofList, List.foldl_map]

theorem contains_keyed_iff (q : String) :
    (keyed key xs).contains q = true ↔ q ∈ xs.map key := by
  rw [keyed, contains_ofList_iff, List.map_map]
  rfl

theorem mem_of_mem_keyed (h : x ∈ (keyed key xs).values) : x ∈ xs := by
  induction xs using List.reverseRecOn with
  | nil => exact h
  | append_singleton xs y ih =>
    obtain ⟨q, hq⟩ := (mem_values_iff _ x).1 h
    rw [keyed, List.map_append, List.map_singleton, ofList_concat, get?_insert] at hq
    rw [List.mem_append, List.mem_singleton]
    by_cases hkey : q = key y
    · rw [if_pos hkey] at hq
      exact .inr (Option.some.inj hq).symm
    · rw [if_neg hkey] at hq
      exact .inl (ih ((mem_values_iff _ x).2 ⟨q, hq⟩))

/-- A key has the last row of the list that is under it. -/
theorem get?_keyed_eq_some_iff {q : String} : (keyed key xs).get? q = some x ↔
    ∃ before after, xs = before ++ x :: after ∧ key x = q ∧ q ∉ after.map key := by
  induction xs using List.reverseRecOn with
  | nil =>
    refine iff_of_false (by simp [keyed, ofList]) ?_
    rintro ⟨before, after, hnil, -⟩
    simp at hnil
  | append_singleton xs y ih =>
    have hstep : (keyed key (xs ++ [y])).get? q =
        if q = key y then some y else (keyed key xs).get? q := by
      rw [keyed, List.map_append, List.map_singleton, ofList_concat, get?_insert]
      rfl
    rw [hstep]
    constructor
    · intro h
      by_cases hq : q = key y
      · rw [if_pos hq] at h
        cases h
        exact ⟨xs, [], rfl, hq.symm, by simp⟩
      · rw [if_neg hq] at h
        obtain ⟨before, after, rfl, hkey, hafter⟩ := ih.1 h
        refine ⟨before, after ++ [y], by simp, hkey, ?_⟩
        rw [List.map_append, List.mem_append, not_or]
        exact ⟨hafter, by simpa using hq⟩
    · rintro ⟨before, after, hlist, hkey, hafter⟩
      cases after using List.reverseRecOn with
      | nil =>
        obtain ⟨-, hy⟩ := List.append_inj' hlist rfl
        cases hy
        rw [if_pos hkey.symm]
      | append_singleton after z =>
        rw [← List.cons_append, ← List.append_assoc] at hlist
        obtain ⟨rfl, hz⟩ := List.append_inj' hlist rfl
        cases hz
        simp only [List.map_append, List.mem_append, not_or, List.map_singleton,
          List.mem_singleton] at hafter
        rw [if_neg hafter.2]
        exact ih.2 ⟨before, after, rfl, hkey, hafter.1⟩

/-- **No row is lost just when no two have one key.** -/
theorem values_keyed_perm_iff : (keyed key xs).values.Perm xs ↔ (xs.map key).Nodup := by
  have h := values_ofList_perm_iff (xs.map fun x => (key x, x))
  simp only [List.map_map, Function.comp_def, List.map_id'] at h
  exact h

/-- A table with every row under its own key is made again from its values. -/
theorem keyed_values (h : ∀ q x, t.get? q = some x → key x = q) : keyed key t.values = t := by
  have hrows : (t.values.map fun x => (key x, x)) = t.entries := by
    rw [values, List.map_map]
    refine (List.map_congr_left fun r hr => ?_).trans (List.map_id t.entries)
    have hkey := h r.1 r.2 ((mem_entries_iff t r.1 r.2).1 hr)
    simp [hkey]
  rw [keyed, hrows, ofList_entries]

end ThemedPages.Table
