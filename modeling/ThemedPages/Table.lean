/-!
# Tables

A table holds values under text keys. Its rows are kept in strictly ascending key order, so two
tables with the same rows are equal, and listing a table needs no sorting. Keys compare by code
point, which is also the byte order of their UTF-8 form.

The lemmas give each operation through the one view `get?`, and `Table.ext_get?` says that the
view determines the table.
-/

namespace ThemedPages

/-- Values under distinct text keys, in key order. -/
structure Table (α : Type u) where
  /-- The rows, by ascending key. -/
  entries : List (String × α)
  /-- No key occurs twice, and the keys ascend. -/
  sorted : entries.Pairwise fun a b => a.1 < b.1

namespace Table

variable {α : Type u} {β : Type v}

theorem ext_entries {s t : Table α} (h : s.entries = t.entries) : s = t := by
  cases s; cases t; cases h; rfl

instance [DecidableEq α] : DecidableEq (Table α) := fun s t =>
  if h : s.entries = t.entries then isTrue (ext_entries h) else isFalse fun e => h (e ▸ rfl)

/-! ## Rows in key order -/

/-- Put a row in its place, over any row with the same key. -/
def insertRow (k : String) (x : α) : List (String × α) → List (String × α)
  | [] => [(k, x)]
  | (k', y) :: rest =>
    if k < k' then (k, x) :: (k', y) :: rest
    else if k' < k then (k', y) :: insertRow k x rest
    else (k, x) :: rest

theorem mem_insertRow {k : String} {x : α} {rows : List (String × α)} {r : String × α}
    (h : r ∈ insertRow k x rows) : r = (k, x) ∨ r ∈ rows := by
  induction rows with
  | nil => simpa [insertRow] using h
  | cons head rest ih =>
    obtain ⟨k', y⟩ := head
    unfold insertRow at h
    split at h
    · simpa using h
    · split at h
      · rcases List.mem_cons.1 h with h | h
        · simp [h]
        · rcases ih h with h | h <;> simp [h]
      · rcases List.mem_cons.1 h with h | h <;> simp [h]

theorem sorted_insertRow {k : String} {x : α} {rows : List (String × α)}
    (h : rows.Pairwise fun a b => a.1 < b.1) :
    (insertRow k x rows).Pairwise fun a b => a.1 < b.1 := by
  induction rows with
  | nil => simp [insertRow]
  | cons head rest ih =>
    obtain ⟨k', y⟩ := head
    have hhead := (List.pairwise_cons.1 h).1
    have hrest := (List.pairwise_cons.1 h).2
    unfold insertRow
    split
    · rename_i hlt
      refine List.pairwise_cons.2 ⟨fun r hr => ?_, h⟩
      rcases List.mem_cons.1 hr with rfl | hr
      · exact hlt
      · exact String.lt_trans hlt (hhead r hr)
    · split
      · rename_i hlt
        refine List.pairwise_cons.2 ⟨fun r hr => ?_, ih hrest⟩
        rcases mem_insertRow hr with rfl | hr
        · exact hlt
        · exact hhead r hr
      · rename_i hle hge
        have hkey : k = k' := String.le_antisymm (String.not_lt.1 hge) (String.not_lt.1 hle)
        refine List.pairwise_cons.2 ⟨fun r hr => ?_, hrest⟩
        simpa [hkey] using hhead r hr

/-- The value in the first row under `q`. -/
def lookupRow (q : String) : List (String × α) → Option α
  | [] => none
  | (k, x) :: rest => if q = k then some x else lookupRow q rest

@[simp]
theorem lookupRow_nil (q : String) : lookupRow q ([] : List (String × α)) = none := rfl

theorem lookupRow_cons (q k : String) (x : α) (rest : List (String × α)) :
    lookupRow q ((k, x) :: rest) = if q = k then some x else lookupRow q rest := rfl

theorem lookupRow_insertRow (k : String) (x : α) (rows : List (String × α)) (q : String) :
    lookupRow q (insertRow k x rows) = if q = k then some x else lookupRow q rows := by
  induction rows with
  | nil => rfl
  | cons head rest ih =>
    obtain ⟨k', y⟩ := head
    unfold insertRow
    split
    · rfl
    · split
      · rename_i _ hlt
        have hne : k' ≠ k := fun e => String.lt_irrefl k (by simp [e] at hlt)
        by_cases hq : q = k'
        · simp [lookupRow_cons, hq, hne]
        · simp [lookupRow_cons, hq, ih]
      · rename_i hle hge
        have hkey : k = k' := String.le_antisymm (String.not_lt.1 hge) (String.not_lt.1 hle)
        subst hkey
        by_cases hq : q = k <;> simp [lookupRow_cons, hq]

theorem lookupRow_eq_none_of_lt {rows : List (String × α)} {q : String}
    (h : ∀ r ∈ rows, q < r.1) : lookupRow q rows = none := by
  induction rows with
  | nil => rfl
  | cons head rest ih =>
    obtain ⟨k', y⟩ := head
    have hlt : q < k' := h (k', y) (by simp)
    have hne : q ≠ k' := fun e => String.lt_irrefl k' (by simp [e] at hlt)
    simp [lookupRow_cons, hne, ih fun r hr => h r (by simp [hr])]

theorem lookupRow_filter {rows : List (String × α)} (p : String × α → Bool) (q : String)
    (h : rows.Pairwise fun a b => a.1 < b.1) :
    lookupRow q (rows.filter p) = (lookupRow q rows).filter fun x => p (q, x) := by
  induction rows with
  | nil => rfl
  | cons head rest ih =>
    obtain ⟨k', y⟩ := head
    have ih := ih (List.pairwise_cons.1 h).2
    by_cases hq : q = k'
    · subst hq
      have hnone : lookupRow q rest = none := lookupRow_eq_none_of_lt (List.pairwise_cons.1 h).1
      by_cases hp : p (q, y) = true
      · simp [lookupRow_cons, hp, Option.filter]
      · simp [lookupRow_cons, hp, ih, hnone, Option.filter]
    · by_cases hp : p (k', y) = true
      · simp [lookupRow_cons, hp, hq, ih]
      · simp [lookupRow_cons, hp, hq, ih]

/-! ## Operations -/

/-- The table without rows. -/
def empty : Table α := ⟨[], List.Pairwise.nil⟩

instance : Inhabited (Table α) := ⟨empty⟩

/-- The value under `k`. -/
def get? (t : Table α) (k : String) : Option α := lookupRow k t.entries

/-- Whether `k` has a value. -/
def contains (t : Table α) (k : String) : Bool := (t.get? k).isSome

/-- Store `x` under `k`, replacing what was there. -/
def insert (t : Table α) (k : String) (x : α) : Table α :=
  ⟨insertRow k x t.entries, sorted_insertRow t.sorted⟩

/-- Keep the rows that `p` accepts. -/
def filter (t : Table α) (p : String → α → Bool) : Table α :=
  ⟨t.entries.filter fun r => p r.1 r.2, t.sorted.filter _⟩

/-- Drop the row under `k`. -/
def erase (t : Table α) (k : String) : Table α := t.filter fun k' _ => k' != k

/-- Change every value, keeping its key. -/
def map (f : α → β) (t : Table α) : Table β :=
  ⟨t.entries.map fun r => (r.1, f r.2), List.pairwise_map.2 t.sorted⟩

/-- The keys, ascending. -/
def keys (t : Table α) : List String := t.entries.map Prod.fst

/-- The values, by ascending key. -/
def values (t : Table α) : List α := t.entries.map Prod.snd

/-- The number of rows. -/
def size (t : Table α) : Nat := t.entries.length

/-- Whether there is no row. -/
def isEmpty (t : Table α) : Bool := t.entries.isEmpty

/-- A table of the given rows; of two rows with one key the later one stays. -/
def ofList (rows : List (String × α)) : Table α :=
  rows.foldl (fun t r => t.insert r.1 r.2) empty

/-! ## The view -/

@[simp]
theorem get?_empty (k : String) : (empty : Table α).get? k = none := rfl

theorem get?_insert (t : Table α) (k : String) (x : α) (q : String) :
    (t.insert k x).get? q = if q = k then some x else t.get? q :=
  lookupRow_insertRow k x t.entries q

@[simp]
theorem get?_insert_self (t : Table α) (k : String) (x : α) : (t.insert k x).get? k = some x := by
  simp [get?_insert]

theorem get?_filter (t : Table α) (p : String → α → Bool) (q : String) :
    (t.filter p).get? q = (t.get? q).filter fun x => p q x :=
  lookupRow_filter (fun r => p r.1 r.2) q t.sorted

theorem get?_erase (t : Table α) (k q : String) :
    (t.erase k).get? q = if q = k then none else t.get? q := by
  unfold erase
  rw [get?_filter]
  by_cases h : q = k
  · subst h; cases t.get? q <;> simp
  · cases t.get? q <;> simp [h]

theorem get?_map (f : α → β) (t : Table α) (q : String) : (t.map f).get? q = (t.get? q).map f := by
  obtain ⟨rows, h⟩ := t
  unfold map get?
  induction rows with
  | nil => rfl
  | cons head rest ih =>
    obtain ⟨k', y⟩ := head
    have ih := ih (List.pairwise_cons.1 h).2
    by_cases hq : q = k'
    · simp [lookupRow_cons, hq]
    · simpa [lookupRow_cons, hq] using ih

theorem contains_iff (t : Table α) (k : String) : t.contains k = true ↔ ∃ x, t.get? k = some x := by
  simp [contains, Option.isSome_iff_exists]

theorem contains_insert_iff (t : Table α) (k : String) (x : α) (q : String) :
    (t.insert k x).contains q = true ↔ q = k ∨ t.contains q = true := by
  by_cases h : q = k <;> simp [contains, get?_insert, h]

theorem contains_erase_iff (t : Table α) (k q : String) :
    (t.erase k).contains q = true ↔ q ≠ k ∧ t.contains q = true := by
  by_cases h : q = k <;> simp [contains, get?_erase, h]

theorem mem_entries_iff (t : Table α) (k : String) (x : α) :
    (k, x) ∈ t.entries ↔ t.get? k = some x := by
  obtain ⟨rows, h⟩ := t
  unfold get?
  induction rows with
  | nil => simp
  | cons head rest ih =>
    obtain ⟨k', y⟩ := head
    have hhead := (List.pairwise_cons.1 h).1
    have ih := ih (List.pairwise_cons.1 h).2
    by_cases hq : k = k'
    · subst hq
      have hnot : (k, x) ∉ rest := fun hm => String.lt_irrefl k (hhead _ hm)
      simp [lookupRow_cons, hnot, eq_comm]
    · simpa [lookupRow_cons, hq] using ih

/-! ## Rows as lists -/

theorem mem_values_iff (t : Table α) (x : α) : x ∈ t.values ↔ ∃ k, t.get? k = some x := by
  simp [values, ← mem_entries_iff]

theorem mem_keys_iff (t : Table α) (k : String) : k ∈ t.keys ↔ t.contains k = true := by
  simp [keys, contains_iff, ← mem_entries_iff]

theorem length_keys (t : Table α) : t.keys.length = t.size := by simp [keys, size]

/-- Values that only one key can have are counted once at most. -/
theorem length_filter_values_le_one {t : Table α} {p : α → Bool}
    (h : ∀ k l x y, t.get? k = some x → p x = true → t.get? l = some y → p y = true → k = l) :
    (t.values.filter p).length ≤ 1 := by
  have hlen : (t.values.filter p).length = (t.entries.filter fun r => p r.2).length := by
    simp [values, List.filter_map, Function.comp_def]
  rw [hlen]
  match hrows : t.entries.filter fun r => p r.2 with
  | [] | [_] => simp [hrows]
  | a :: b :: rest =>
    have hsorted := t.sorted.filter fun r => p r.2
    have ha : a ∈ t.entries ∧ p a.2 = true := by
      simpa using (hrows ▸ List.mem_cons_self : a ∈ t.entries.filter fun r => p r.2)
    have hb : b ∈ t.entries ∧ p b.2 = true := by
      simpa using (hrows ▸ List.mem_cons_of_mem a List.mem_cons_self :
        b ∈ t.entries.filter fun r => p r.2)
    have hkey : a.1 = b.1 := h a.1 b.1 a.2 b.2 ((mem_entries_iff t _ _).1 ha.1) ha.2
      ((mem_entries_iff t _ _).1 hb.1) hb.2
    rw [hrows] at hsorted
    have hlt : a.1 < b.1 := (List.pairwise_cons.1 hsorted).1 b (by simp)
    exact absurd hlt (hkey ▸ String.lt_irrefl a.1)

/-- A table is determined by what it answers. -/
theorem ext_get? {s t : Table α} (h : ∀ k, s.get? k = t.get? k) : s = t := by
  apply ext_entries
  obtain ⟨rs, hs⟩ := s
  obtain ⟨rt, ht⟩ := t
  simp only [get?] at h
  show rs = rt
  induction rs generalizing rt with
  | nil =>
    cases rt with
    | nil => rfl
    | cons r rest => exact absurd (h r.1) (by simp [lookupRow])
  | cons a rest ih =>
    cases rt with
    | nil => exact absurd (h a.1) (by simp [lookupRow])
    | cons b rest' =>
      obtain ⟨ka, xa⟩ := a
      obtain ⟨kb, xb⟩ := b
      have ha := (List.pairwise_cons.1 hs).1
      have hb := (List.pairwise_cons.1 ht).1
      have hkey : ka = kb := by
        refine String.le_antisymm (String.not_lt.1 fun hlt => ?_) (String.not_lt.1 fun hlt => ?_)
        · have hnone : lookupRow kb ((ka, xa) :: rest) = none :=
            lookupRow_eq_none_of_lt fun c hc => by
              rcases List.mem_cons.1 hc with rfl | hc
              · exact hlt
              · exact String.lt_trans hlt (ha c hc)
          simpa [hnone, lookupRow_cons] using h kb
        · have hnone : lookupRow ka ((kb, xb) :: rest') = none :=
            lookupRow_eq_none_of_lt fun c hc => by
              rcases List.mem_cons.1 hc with rfl | hc
              · exact hlt
              · exact String.lt_trans hlt (hb c hc)
          simpa [hnone, lookupRow_cons] using h ka
      subst hkey
      have hval : xa = xb := by simpa [lookupRow_cons] using h ka
      subst hval
      have hrest := ih (List.pairwise_cons.1 hs).2 rest' (List.pairwise_cons.1 ht).2 fun k => by
        by_cases hk : k = ka
        · subst hk
          rw [lookupRow_eq_none_of_lt ha, lookupRow_eq_none_of_lt hb]
        · simpa [lookupRow_cons, hk] using h k
      rw [hrest]

/-- Only the last row counts. -/
theorem insert_insert (t : Table α) (k : String) (x y : α) :
    (t.insert k x).insert k y = t.insert k y := by
  apply ext_get?
  intro q
  by_cases hq : q = k <;> simp [get?_insert, hq]

end Table

end ThemedPages
