import Mathlib.Data.Finset.Card
import Mathlib.Order.Interval.Finset.Nat
import ThemedPages.Proofs.Store.Default
import ThemedPages.Proofs.Store.Naming

/-!
# The ids that a store gives

The number of a new record is found by raising a counter of 64 bits until the id with the number is
free (`search`). Nothing bounds the rounds of this loop but the counter itself. Where the counter has
room, `freshNumber` is what it ends with.

**Theorem (`ids_given_once`).** As long as the counter has room, the search for an id ends after one
round more than there are records at most, with an id that no record has, and no two records that are
created one after another get one id, whatever is deleted in between.

A search goes on only past the id of a record, and a number that was passed or given is never tried
again. Records created in the meantime have numbers up to the counter. So the counter is raised by
one for each creation and for each record of the beginning that is in the way, and by no more: the
counter and the number of records ahead of it (`takenAhead`) grow by one for each creation, together.
-/

namespace ThemedPages

/-- The kind of record that a request is to create. -/
def StoreCall.createdKind? : StoreCall → Option String
  | .createTheme _ => some "theme"
  | .createVariation _ _ => some "variation"
  | _ => none

/-- Whether a request is to create a record. -/
def StoreCall.creates (call : StoreCall) : Bool := call.createdKind?.isSome

namespace MemoryStore

/-! ## The search for an id -/

theorem toNat_next (last : UInt64) (room : last.toNat + 1 < UInt64.size) :
    (last + 1).toNat = last.toNat + 1 := by
  rw [UInt64.toNat_add]
  exact Nat.mod_eq_of_lt room

/-- The search for a free id above a number. The number is raised until no record has the id with it.
Gives the rounds that this took, and the number; or nothing, when the number cannot be raised any
more. -/
def search (s : MemoryStore) (kind : String) (last : UInt64) : Option (Nat × UInt64) :=
  if room : last.toNat + 1 < UInt64.size then
    if s.hasId (numberedId kind (last + 1).toNat) then
      (s.search kind (last + 1)).map fun (rounds, found) => (rounds + 1, found)
    else some (1, last + 1)
  else none
termination_by UInt64.size - last.toNat
decreasing_by
  rw [toNat_next last room]
  omega

/-- The search for an id ends soon, below the limit of its counter, and with an id that is new. -/
inductive Finds (s : MemoryStore) (kind : String) : String → Prop
  | ends {rounds : Nat} {found : UInt64}
      (search : s.search kind (.ofNat s.lastNumber) = some (rounds, found))
      (soon : rounds ≤ s.themes.size + s.variations.size + 1)
      (raised : found.toNat = s.lastNumber + rounds)
      (newTheme : numberedId kind found.toNat ∉ s.themes.keys)
      (newVariation : numberedId kind found.toNat ∉ s.variations.keys) :
      Finds s kind (numberedId kind found.toNat)

variable {s s' : MemoryStore} {kind id : String} {limit : Nat}

/-- The search passes what is taken and ends with what is free. -/
theorem search_eq (s : MemoryStore) (kind : String) (rounds : Nat) (last : UInt64)
    (room : last.toNat + rounds + 1 < UInt64.size)
    (taken : ∀ m, last.toNat < m → m < last.toNat + rounds + 1 →
      s.hasId (numberedId kind m) = true)
    (free : s.hasId (numberedId kind (last.toNat + rounds + 1)) = false) :
    ∃ found, s.search kind last = some (rounds + 1, found) ∧
      found.toNat = last.toNat + rounds + 1 := by
  induction rounds generalizing last with
  | zero =>
    have hnext := toNat_next last room
    refine ⟨last + 1, ?_, hnext⟩
    have hfree : ¬ s.hasId (numberedId kind (last.toNat + 1)) = true := by
      intro htaken
      rw [htaken] at free
      cases free
    rw [search, dif_pos room, hnext, if_neg hfree]
  | succ rounds ih =>
    have hroom : last.toNat + 1 < UInt64.size := by omega
    have hnext := toNat_next last hroom
    have htaken := taken (last.toNat + 1) (by omega) (by omega)
    obtain ⟨found, hsearch, hfound⟩ := ih (last + 1) (by omega)
      (fun m hlow hhigh => taken m (by omega) (by omega))
      (by rwa [hnext, show last.toNat + 1 + rounds + 1 = last.toNat + (rounds + 1) + 1 by omega])
    refine ⟨found, ?_, by omega⟩
    rw [search, dif_pos hroom, hnext, if_pos htaken, hsearch]
    rfl

/-- **The search ends.** It needs no more than that the number it ends with has 64 bits. -/
theorem finds_freshNumber (room : s.freshNumber kind < UInt64.size) :
    s.Finds kind (numberedId kind (s.freshNumber kind)) := by
  have hlt := s.lastNumber_lt_freshNumber kind
  have hle := s.freshNumber_le_size kind
  have hfree := s.hasId_freshNumber kind
  obtain ⟨rounds, hrounds⟩ : ∃ rounds, s.freshNumber kind = s.lastNumber + rounds + 1 :=
    ⟨s.freshNumber kind - s.lastNumber - 1, by omega⟩
  have hlast : (UInt64.ofNat s.lastNumber).toNat = s.lastNumber :=
    UInt64.toNat_ofNat_of_lt' (by omega)
  obtain ⟨found, hsearch, hfound⟩ := s.search_eq kind rounds (.ofNat s.lastNumber) (by omega)
    (fun m hlow hhigh => s.hasId_of_lt_freshNumber kind (by omega) (by omega))
    (by rwa [hlast, ← hrounds])
  rw [hlast, ← hrounds] at hfound
  rw [← hfound] at hfree ⊢
  have hnew : numberedId kind found.toNat ∉ s.themes.keys ++ s.variations.keys := by
    rw [← hasId_iff_mem, hfree]
    exact Bool.false_ne_true
  rw [List.mem_append, not_or] at hnew
  exact .ends hsearch (by omega) (by omega) hnew.1 hnew.2

/-! ## Ids that are given -/

/-- The id in the record of a response. -/
def idIn (idOf : α → String) : Answer (StoreResponse α) → Option String
  | .ok response => response.data.map idOf
  | .error _ => none

/-- The id of the record that a request creates, as its response tells. -/
def givenId? : StoreCall → MemoryStore → Option String
  | .createTheme draft, s => idIn Theme.id (ThemeStore.createTheme draft s).1
  | .createVariation parentId draft, s =>
    idIn Variation.id (ThemeStore.createVariation parentId draft s).1
  | _, _ => none

/-- The ids of the records that a sequence of requests creates, one after another. -/
def givenIds : List StoreCall → MemoryStore → List String
  | [], _ => []
  | call :: calls, s => (givenId? call s).toList ++ givenIds calls (perform call s).2

theorem createdKind?_isKind {call : StoreCall} (creates : call.createdKind? = some kind) :
    IsKind kind := by
  cases call <;> cases creates
  · exact .theme
  · exact .variation

/-- A creation was refused and gave nothing, or it was done with the fresh id. -/
def Created (s : MemoryStore) (kind : String) (idOf : α → String)
    (outcome : StoreResponse α × MemoryStore) : Prop :=
  (∃ r, outcome = (.fail r, s)) ∨ ∃ x, outcome.1 = .ok x ∧
    idOf x = numberedId kind (s.freshNumber kind) ∧ outcome.2.lastNumber = s.freshNumber kind

theorem createTheme_created (s : MemoryStore) (d : ThemeDraft) :
    s.Created "theme" Theme.id (s.createTheme d) := by
  unfold MemoryStore.createTheme
  split
  · exact .inl ⟨_, rfl⟩
  · exact .inr ⟨_, rfl, rfl, rfl⟩

theorem createVariation_created (s : MemoryStore) (parentId : String) (d : VariationDraft) :
    s.Created "variation" Variation.id (s.createVariation parentId d) := by
  unfold MemoryStore.createVariation
  split
  · exact .inl ⟨_, rfl⟩
  · split
    · exact .inl ⟨_, rfl⟩
    · exact .inr ⟨_, rfl, rfl, rfl⟩

/-- What a request that is to create a record tells of it. -/
theorem Created.told {idOf : α → String} {f : MemoryStore → StoreResponse α × MemoryStore}
    (h : s.Created kind idOf (f s)) (request : String) :
    ((succeeds (change request f) s).1 ≠ .ok true ∧ idIn idOf (change request f s).1 = none) ∨
      ((succeeds (change request f) s).1 = .ok true ∧
        idIn idOf (change request f s).1 = some (numberedId kind (s.freshNumber kind)) ∧
        (succeeds (change request f) s).2.lastNumber = s.freshNumber kind) := by
  unfold succeeds change
  by_cases hoff : s.offline = true
  · exact .inl ⟨by simp [hoff, Except.map], by simp [hoff, idIn]⟩
  · rcases h with ⟨r, hfail⟩ | ⟨x, hok, hid, hlast⟩
    · exact .inl ⟨by simp [hoff, Except.map, hfail, StoreResponse.fail],
        by simp [hoff, idIn, hfail, StoreResponse.fail]⟩
    · exact .inr ⟨by simp [hoff, Except.map, hok, StoreResponse.ok],
        by simp [hoff, idIn, hok, hid, StoreResponse.ok], by simp [hoff, hlast]⟩

/-- A request that is to create a record fails and gives no id, or it gives the fresh one. -/
theorem givenId?_cases {call : StoreCall} (creates : call.createdKind? = some kind)
    (s : MemoryStore) :
    ((perform call s).1 ≠ .ok true ∧ givenId? call s = none) ∨
      ((perform call s).1 = .ok true ∧
        givenId? call s = some (numberedId kind (s.freshNumber kind)) ∧
        (perform call s).2.lastNumber = s.freshNumber kind) := by
  cases call with
  | createTheme d =>
    cases creates
    exact (s.createTheme_created d).told "create_theme"
  | createVariation parentId d =>
    cases creates
    exact (s.createVariation_created parentId d).told "create_variation"
  | _ => cases creates

theorem givenId?_of_not_creates {call : StoreCall} (other : call.createdKind? = none)
    (s : MemoryStore) : givenId? call s = none := by
  cases call <;> first | rfl | cases other

/-- The id that a request gives has the number that the counter comes to. -/
theorem givenId?_eq_some {call : StoreCall} (given : givenId? call s = some id) :
    ∃ kind, IsKind kind ∧ s.lastNumber < (perform call s).2.lastNumber ∧
      id = numberedId kind (perform call s).2.lastNumber := by
  cases hkind : call.createdKind? with
  | none =>
    rw [givenId?_of_not_creates hkind] at given
    cases given
  | some kind =>
    rcases givenId?_cases hkind s with ⟨-, hnone⟩ | ⟨-, hsome, hlast⟩
    · rw [hnone] at given
      cases given
    · rw [hsome] at given
      cases given
      rw [hlast]
      exact ⟨kind, createdKind?_isKind hkind, s.lastNumber_lt_freshNumber kind, rfl⟩

theorem lastNumber_le_perform (call : StoreCall) (s : MemoryStore) :
    s.lastNumber ≤ (perform call s).2.lastNumber := by
  rcases performed call s with ⟨-, hchange⟩ | ⟨-, hsame⟩
  · exact lastNumber_le_change hchange
  · rw [hsame]

/-- Ids that are given later have greater numbers. -/
theorem exists_number_of_mem {calls : List StoreCall} (given : id ∈ givenIds calls s) :
    ∃ kind n, IsKind kind ∧ s.lastNumber < n ∧ id = numberedId kind n := by
  induction calls generalizing s with
  | nil => cases given
  | cons call calls ih =>
    rw [givenIds, List.mem_append, Option.mem_toList] at given
    rcases given with hfirst | hlater
    · obtain ⟨kind, hkind, hlt, rfl⟩ := givenId?_eq_some hfirst
      exact ⟨kind, _, hkind, hlt, rfl⟩
    · obtain ⟨kind, n, hkind, hlt, rfl⟩ := ih hlater
      exact ⟨kind, n, hkind, Nat.lt_of_le_of_lt (lastNumber_le_perform call s) hlt, rfl⟩

/-- **No id is given twice.** The counter goes on with every id, and the two kinds of ids differ by
their beginnings. -/
theorem nodup_givenIds (calls : List StoreCall) (s : MemoryStore) : (givenIds calls s).Nodup := by
  induction calls generalizing s with
  | nil => exact List.nodup_nil
  | cons call calls ih =>
    rw [givenIds]
    cases hfirst : givenId? call s with
    | none => exact ih _
    | some id =>
      refine List.nodup_cons.2 ⟨fun hlater => ?_, ih _⟩
      obtain ⟨kind, hkind, -, hid⟩ := givenId?_eq_some hfirst
      obtain ⟨kind', n, hkind', hlt, hid'⟩ := exists_number_of_mem hlater
      have hnumber := ((numberedId_eq_iff hkind hkind').1 (hid.symm.trans hid')).2
      omega

/-! ## How far the counter gets -/

/-- The numbers above the counter, up to a limit, that are in the id of a record. -/
def takenAhead (s : MemoryStore) (limit : Nat) : Finset Nat :=
  (Finset.Ioc s.lastNumber limit).filter fun n =>
    s.hasId (numberedId "theme" n) = true ∨ s.hasId (numberedId "variation" n) = true

theorem mem_takenAhead {n : Nat} : n ∈ s.takenAhead limit ↔ s.lastNumber < n ∧ n ≤ limit ∧
    ∃ kind, IsKind kind ∧ s.hasId (numberedId kind n) = true := by
  have hkinds : (s.hasId (numberedId "theme" n) = true ∨
      s.hasId (numberedId "variation" n) = true) ↔
        ∃ kind, IsKind kind ∧ s.hasId (numberedId kind n) = true := by
    constructor
    · rintro (htheme | hvariation)
      · exact ⟨"theme", .theme, htheme⟩
      · exact ⟨"variation", .variation, hvariation⟩
    · rintro ⟨kind, hkind, htaken⟩
      cases hkind with
      | theme => exact .inl htaken
      | variation => exact .inr htaken
  rw [takenAhead, Finset.mem_filter, Finset.mem_Ioc, hkinds, and_assoc]

/-- Each number that is taken is in the id of a record of its own. -/
theorem card_takenAhead_le (s : MemoryStore) (limit : Nat) :
    (s.takenAhead limit).card ≤ s.themes.size + s.variations.size := by
  have hkey : ∀ n ∈ s.takenAhead limit, ∃ kind, IsKind kind ∧
      numberedId kind n ∈ (s.themes.keys ++ s.variations.keys).toFinset := by
    intro n hn
    obtain ⟨-, -, kind, hkind, htaken⟩ := mem_takenAhead.1 hn
    exact ⟨kind, hkind, List.mem_toFinset.2 ((s.hasId_iff_mem _).1 htaken)⟩
  choose! kindOf hkind hmem using hkey
  have hcard : (s.takenAhead limit).card ≤ (s.themes.keys ++ s.variations.keys).toFinset.card := by
    refine Finset.card_le_card_of_injOn (fun n => numberedId (kindOf n) n) hmem ?_
    intro m hm n hn heq
    exact ((numberedId_eq_iff (hkind m hm) (hkind n hn)).1 heq).2
  have hlength := List.toFinset_card_le (s.themes.keys ++ s.variations.keys)
  rw [List.length_append, Table.length_keys, Table.length_keys] at hlength
  omega

/-- What a search passes is ahead of the counter. -/
theorem Ioo_subset_takenAhead (isKind : IsKind kind) (n : Nat) (upTo : n ≤ s.freshNumber kind)
    (room : n ≤ limit + 1) : Finset.Ioo s.lastNumber n ⊆ s.takenAhead limit := by
  intro m hm
  obtain ⟨hlow, hhigh⟩ := Finset.mem_Ioo.1 hm
  exact mem_takenAhead.2
    ⟨hlow, by omega, kind, isKind, s.hasId_of_lt_freshNumber kind hlow (by omega)⟩

/-- How far the counter is, with the numbers that are in its way. -/
def reach (s : MemoryStore) (limit : Nat) : Nat := s.lastNumber + (s.takenAhead limit).card

/-- The search goes no further than one number past those that are in its way. -/
theorem freshNumber_le_reach (s : MemoryStore) (limit : Nat) (isKind : IsKind kind)
    (room : s.reach limit < limit) :
    s.freshNumber kind ≤ s.reach limit + 1 := by
  unfold reach at room ⊢
  by_contra hfar
  have hsubset : Finset.Ioo s.lastNumber (s.lastNumber + (s.takenAhead limit).card + 2) ⊆
      s.takenAhead limit := Ioo_subset_takenAhead isKind _ (by omega) (by omega)
  have hcard := Finset.card_le_card hsubset
  rw [Nat.card_Ioo] at hcard
  omega

/-- Nothing gets ahead of the counter. A new record has the number that the counter is at. -/
theorem takenAhead_perform (call : StoreCall) (s : MemoryStore) (limit : Nat) :
    (perform call s).2.takenAhead limit ⊆ s.takenAhead limit := by
  rcases performed call s with ⟨-, hchange⟩ | ⟨-, hsame⟩
  · intro n hn
    obtain ⟨hlow, hhigh, kind, hkind, htaken⟩ := mem_takenAhead.1 hn
    have hle := lastNumber_le_change hchange
    exact mem_takenAhead.2 ⟨by omega, hhigh, kind, hkind, hasId_of_later hchange hkind hlow htaken⟩
  · rw [hsame]

theorem lastNumber_change {call : StoreCall} (hc : Change s call s') :
    s'.lastNumber = s.lastNumber ∨
      ∃ kind, call.createdKind? = some kind ∧ s'.lastNumber = s.freshNumber kind := by
  cases hc with
  | createTheme d next => exact .inr ⟨"theme", rfl, next⟩
  | createVariation d next => exact .inr ⟨"variation", rfl, next⟩
  | _ => exact .inl rfl

theorem lastNumber_perform (call : StoreCall) (s : MemoryStore) :
    (perform call s).2.lastNumber = s.lastNumber ∨
      ∃ kind, call.createdKind? = some kind ∧
        (perform call s).2.lastNumber = s.freshNumber kind := by
  rcases performed call s with ⟨-, hchange⟩ | ⟨-, hsame⟩
  · exact lastNumber_change hchange
  · exact .inl (by rw [hsame])

/-- **One request.** The reach of the counter grows by one if it is to create a record, and not
otherwise. -/
theorem reach_perform (call : StoreCall) (s : MemoryStore) (limit : Nat)
    (room : s.reach limit + [call].countP StoreCall.creates ≤ limit) :
    (perform call s).2.reach limit ≤ s.reach limit + [call].countP StoreCall.creates := by
  have hsubset := takenAhead_perform call s limit
  rcases lastNumber_perform call s with hlast | ⟨kind, hkind, hlast⟩
  · have hcard := Finset.card_le_card hsubset
    unfold reach
    omega
  · have hone : [call].countP StoreCall.creates = 1 := by simp [StoreCall.creates, hkind]
    have isKind := createdKind?_isKind hkind
    rw [hone] at room ⊢
    have hfresh := s.freshNumber_le_reach limit isKind (by omega)
    -- The numbers that the search passes were ahead of the counter, and are so no longer.
    have hdisjoint : Disjoint (Finset.Ioo s.lastNumber (s.freshNumber kind))
        ((perform call s).2.takenAhead limit) := by
      rw [Finset.disjoint_left]
      intro n hn hahead
      have hhigh := (Finset.mem_Ioo.1 hn).2
      have hlow := (mem_takenAhead.1 hahead).1
      omega
    have hcard := Finset.card_le_card (Finset.union_subset
      (Ioo_subset_takenAhead isKind _ (Nat.le_refl _) (by omega)) hsubset)
    rw [Finset.card_union_of_disjoint hdisjoint, Nat.card_Ioo] at hcard
    have hlt := s.lastNumber_lt_freshNumber kind
    unfold reach
    omega

/-- **Sequences of requests.** -/
theorem reach_runCalls (calls : List StoreCall) (s : MemoryStore) (limit : Nat)
    (room : s.reach limit + calls.countP StoreCall.creates ≤ limit) :
    (runCalls calls s).reach limit ≤ s.reach limit + calls.countP StoreCall.creates := by
  induction calls generalizing s with
  | nil => exact Nat.le_refl _
  | cons call calls ih =>
    have hsplit : (call :: calls).countP StoreCall.creates =
        [call].countP StoreCall.creates + calls.countP StoreCall.creates := by
      rw [← List.singleton_append, List.countP_append]
    rw [hsplit] at room ⊢
    have hstep := reach_perform call s limit (by omega)
    have hrest := ih (perform call s).2 (by omega)
    show (runCalls calls (perform call s).2).reach limit ≤ _
    omega

/-! ## The lifetime of a store -/

/-- **Ids are found soon, and given once.** -/
theorem ids_given_once (s : MemoryStore) :
    (s.lastNumber + s.themes.size + s.variations.size + 1 < UInt64.size →
      ∀ kind, s.Finds kind (numberedId kind (s.freshNumber kind))) ∧
    ∀ calls : List StoreCall, s.lastNumber + s.themes.size + s.variations.size +
        calls.countP StoreCall.creates < UInt64.size →
      (givenIds calls s).Nodup ∧
      ∀ before call after kind, calls = before ++ call :: after →
        call.createdKind? = some kind → (perform call (runCalls before s)).1 = .ok true →
          ∃ id, givenId? call (runCalls before s) = some id ∧
            (runCalls before s).Finds kind id := by
  constructor
  · intro room kind
    exact finds_freshNumber (Nat.lt_of_le_of_lt (s.freshNumber_le_size kind) room)
  · intro calls room
    refine ⟨nodup_givenIds calls s, ?_⟩
    rintro before call after kind rfl hkind succeeds
    rcases givenId?_cases hkind (runCalls before s) with ⟨hfailed, -⟩ | ⟨-, hgiven, -⟩
    · exact absurd succeeds hfailed
    · refine ⟨_, hgiven, finds_freshNumber ?_⟩
      have hcall : call.creates = true := by rw [StoreCall.creates, hkind]; rfl
      have hahead := s.card_takenAhead_le (UInt64.size - 1)
      rw [List.countP_append, List.countP_cons_of_pos hcall] at room
      have hreach := reach_runCalls before s (UInt64.size - 1) (by unfold reach; omega)
      have hfresh := (runCalls before s).freshNumber_le_reach (UInt64.size - 1)
        (createdKind?_isKind hkind) (by unfold reach at hreach ⊢; omega)
      unfold reach at hreach hfresh
      omega

/-- A default theme, a theme and a variation, with ids that are in the way of new ones. -/
def inTheWay : StoreSnapshot where
  themes :=
    [{ id := "theme-1", name := "first", displayName := "First", category := .light,
       colors := .empty, isDefault := true },
     { id := "theme-3", name := "third", displayName := "Third", category := .light,
       colors := .empty }]
  variations :=
    [{ id := "variation-5", parentId := "theme-1", name := "fifth", displayName := "Fifth",
       depth := 1, createdAt := ⟨0, 0⟩ }]

/-- A theme is created, deleted, and created again. -/
def createdAgain : List StoreCall :=
  [.createTheme plainDraft, .deleteTheme "theme-2", .createTheme plainDraft]

/-- A new variation of the default theme. -/
def lateVariation : StoreCall :=
  .createVariation "theme-1"
    { name := "late", displayName := "Late", depth := 1, createdAt := ⟨0, 0⟩ }

theorem ids_given_once_inTheWay :
    ∃ s, ofSnapshot inTheWay = .ok s ∧
      s.lastNumber + s.themes.size + s.variations.size + 1 < UInt64.size ∧
      s.Finds "theme" "theme-2" ∧
      s.lastNumber + s.themes.size + s.variations.size +
        (createdAgain ++ [lateVariation]).countP StoreCall.creates < UInt64.size ∧
      givenIds (createdAgain ++ [lateVariation]) s = ["theme-2", "theme-4", "variation-6"] ∧
      (givenIds (createdAgain ++ [lateVariation]) s).Nodup ∧
      (perform lateVariation (runCalls createdAgain s)).1 = .ok true ∧
      ∃ id, givenId? lateVariation (runCalls createdAgain s) = some id ∧
        (runCalls createdAgain s).Finds "variation" id := by
  obtain ⟨s, hs⟩ : ∃ s, ofSnapshot inTheWay = .ok s := ⟨_, rfl⟩
  have h := ids_given_once s
  have hone : s.lastNumber + s.themes.size + s.variations.size + 1 < UInt64.size := by
    cases hs
    decide
  have hroom : s.lastNumber + s.themes.size + s.variations.size +
      (createdAgain ++ [lateVariation]).countP StoreCall.creates < UInt64.size := by
    cases hs
    decide
  have hfresh : numberedId "theme" (s.freshNumber "theme") = "theme-2" := by
    cases hs
    decide
  have hgiven : givenIds (createdAgain ++ [lateVariation]) s =
      ["theme-2", "theme-4", "variation-6"] := by
    cases hs
    decide
  have hdone : (perform lateVariation (runCalls createdAgain s)).1 = .ok true := by
    cases hs
    decide
  obtain ⟨hnodup, hfinds⟩ := h.2 (createdAgain ++ [lateVariation]) hroom
  exact ⟨s, hs, hone, hfresh ▸ h.1 hone "theme", hroom, hgiven, hnodup, hdone,
    hfinds createdAgain lateVariation [] "variation" rfl rfl hdone⟩

end MemoryStore

end ThemedPages
