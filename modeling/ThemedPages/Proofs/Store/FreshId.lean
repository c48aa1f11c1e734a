import Mathlib.Data.List.Nodup
import Mathlib.Data.List.Perm.Subperm
import ThemedPages.Theme.Store.Memory

/-!
# Fresh ids

A new record gets the id with the first number above the last one given that no record has.

**Theorem (`hasId_freshNumber`).** The id found this way is free.

The search gives up after as many numbers as there are records. Had it given up, it would have met
one taken id more than there are records, all of them different.
-/

namespace ThemedPages.MemoryStore

/-! ## Numbered ids -/

theorem toString_nat_injective {m n : Nat} (h : toString m = toString n) : m = n := by
  have hdigits := congrArg (fun s : String => Nat.ofDigitChars 10 s.toList 0) h
  simpa [Nat.toString_eq_ofList_toDigits] using hdigits

theorem numberedId_injective {kind : String} {m n : Nat}
    (h : numberedId kind m = numberedId kind n) : m = n := by
  unfold numberedId at h
  exact toString_nat_injective ((String.append_right_inj _).1 h)

/-! ## The search -/

variable (s : MemoryStore) (kind : String)

theorem lt_freeNumber (tries n : Nat) : n < s.freeNumber kind tries n := by
  induction tries generalizing n with
  | zero => exact Nat.lt_succ_self n
  | succ tries ih =>
    unfold freeNumber
    split
    · exact Nat.lt_of_succ_lt (ih (n + 1))
    · exact Nat.lt_succ_self n

theorem freeNumber_le (tries n : Nat) : s.freeNumber kind tries n ≤ n + tries + 1 := by
  induction tries generalizing n with
  | zero => exact Nat.le_refl _
  | succ tries ih =>
    unfold freeNumber
    by_cases htaken : s.hasId (numberedId kind (n + 1)) = true
    · rw [if_pos htaken]
      have hrest := ih (n + 1)
      omega
    · rw [if_neg htaken]
      omega

/-- Every number that the search passes over is taken. -/
theorem hasId_of_lt_freeNumber {tries n m : Nat} (hn : n < m) (hm : m < s.freeNumber kind tries n) :
    s.hasId (numberedId kind m) = true := by
  induction tries generalizing n with
  | zero =>
    have hlt : m < n + 1 := hm
    omega
  | succ tries ih =>
    unfold freeNumber at hm
    split at hm
    · rename_i htaken
      by_cases hmn : m = n + 1
      · rw [hmn]; exact htaken
      · exact ih (by omega) hm
    · omega

/-- If the search ends at a taken number, it has gone through all its tries. -/
theorem freeNumber_eq_of_taken {tries n : Nat}
    (h : s.hasId (numberedId kind (s.freeNumber kind tries n)) = true) :
    s.freeNumber kind tries n = n + tries + 1 := by
  induction tries generalizing n with
  | zero => rfl
  | succ tries ih =>
    unfold freeNumber at h ⊢
    split at h
    · rename_i htaken
      rw [if_pos htaken, ih h]
      omega
    · rename_i hfree
      exact absurd h hfree

/-! ## The number of a new record -/

theorem lastNumber_lt_freshNumber : s.lastNumber < s.freshNumber kind :=
  s.lt_freeNumber kind _ s.lastNumber

/-- There is one number more to try than there are records. -/
theorem freshNumber_le_size :
    s.freshNumber kind ≤ s.lastNumber + s.themes.size + s.variations.size + 1 := by
  have h := s.freeNumber_le kind (s.themes.size + s.variations.size) s.lastNumber
  unfold freshNumber
  omega

theorem hasId_of_lt_freshNumber {m : Nat} (hn : s.lastNumber < m) (hm : m < s.freshNumber kind) :
    s.hasId (numberedId kind m) = true :=
  s.hasId_of_lt_freeNumber kind hn hm

theorem hasId_iff_mem (id : String) :
    s.hasId id = true ↔ id ∈ s.themes.keys ++ s.variations.keys := by
  simp [hasId, Table.mem_keys_iff]

/-- **New ids are free.** -/
theorem hasId_freshNumber : s.hasId (numberedId kind (s.freshNumber kind)) = false := by
  by_contra hne
  have htaken : s.hasId (numberedId kind (s.freshNumber kind)) = true := by simpa using hne
  have hlast := s.freeNumber_eq_of_taken kind htaken
  -- The ids that the search has met, one more than there are records.
  let met := (List.range (s.themes.size + s.variations.size + 1)).map fun i =>
    numberedId kind (s.lastNumber + 1 + i)
  have hnodup : met.Nodup := by
    refine List.Nodup.map (fun i j hij => ?_) List.nodup_range
    have := numberedId_injective hij
    omega
  have hsubset : met ⊆ s.themes.keys ++ s.variations.keys := by
    intro id hid
    obtain ⟨i, hi, rfl⟩ := List.mem_map.1 hid
    rw [← hasId_iff_mem]
    by_cases hend : s.lastNumber + 1 + i = s.freshNumber kind
    · rw [hend]; exact htaken
    · have hi := List.mem_range.1 hi
      refine s.hasId_of_lt_freshNumber kind (by omega) ?_
      unfold freshNumber at hend ⊢
      omega
  have hlen := (List.subperm_of_subset hnodup hsubset).length_le
  simp only [met, List.length_map, List.length_range, List.length_append, Table.length_keys] at hlen
  omega

theorem hasId_eq_false_iff {s : MemoryStore} {id : String} :
    s.hasId id = false ↔ s.themes.get? id = none ∧ s.variations.get? id = none := by
  simp [hasId, Table.contains]

/-! ## Free ids -/

variable {s} {id q : String}

theorem theme_ne_of_free (free : s.hasId id = false) {t : Theme}
    (ht : s.themes.get? q = some t) : q ≠ id := by
  rintro rfl
  rw [(hasId_eq_false_iff.1 free).1] at ht
  cases ht

theorem variation_ne_of_free (free : s.hasId id = false) {v : Variation}
    (hv : s.variations.get? q = some v) : q ≠ id := by
  rintro rfl
  rw [(hasId_eq_false_iff.1 free).2] at hv
  cases hv

end ThemedPages.MemoryStore
