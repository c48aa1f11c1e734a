import ThemedPages.Proofs.Engine.Steps

/-!
# Names of new variations

A new variation is named by what it is called and by the time in milliseconds. If a variation has
this name already, whatever theme it belongs to, the next four numbers are tried.

**Theorem (`createVariation_firstFree`).** A new variation of a theme that is there gets the first
of the five names that is free, and nothing else changes. If none is free it is refused.

The store decides which names are taken. A try that meets a taken name leaves the store as it was,
so each try asks the same store (`run_tries_taken`, `run_tries_free`).
-/

namespace ThemedPages

/-- The name of a new variation with a number. -/
def NewVariation.nameWith (data : NewVariation) (number : Int) : String :=
  data.name ++ "-" ++ toString number

namespace MemoryStore

variable {s : MemoryStore} {parentId : String} {parent : Theme} {data : NewVariation}
  {number : Int} {count k : Nat}

/-- A variation has a name. -/
def HasVariation (s : MemoryStore) (name : String) : Prop :=
  ∃ id v, s.variations.get? id = some v ∧ v.name = name

/-- Counting from a number, that many names of a new variation are all taken. -/
def AllTaken (s : MemoryStore) (data : NewVariation) (number : Int) (count : Nat) : Prop :=
  ∀ k < count, s.HasVariation (data.nameWith (number + (k : Nat)))

/-- Counting from a number, the `k`-th name of a new variation is the first that is free. -/
structure FirstFree (s : MemoryStore) (data : NewVariation) (number : Int) (k : Nat) : Prop where
  free : ¬ s.HasVariation (data.nameWith (number + k))
  taken : s.AllTaken data number k

theorem next_number (number : Int) (k : Nat) : number + (k + 1 : Nat) = number + 1 + k := by
  omega

theorem AllTaken.first (h : s.AllTaken data number (count + 1)) :
    s.HasVariation (data.nameWith number) := by
  simpa using h 0 (Nat.succ_pos count)

theorem AllTaken.rest (h : s.AllTaken data number (count + 1)) :
    s.AllTaken data (number + 1) count := by
  intro k hk
  rw [← next_number]
  exact h (k + 1) (Nat.succ_lt_succ hk)

theorem FirstFree.rest (h : s.FirstFree data number (k + 1)) :
    s.FirstFree data (number + 1) k := by
  refine ⟨?_, h.taken.rest⟩
  rw [← next_number]
  exact h.free

/-- Of some names all are taken, or there is a first one that is free. -/
theorem allTaken_or_exists_firstFree (s : MemoryStore) (data : NewVariation) (number : Int)
    (tries : Nat) :
    s.AllTaken data number tries ∨ ∃ k < tries, s.FirstFree data number k := by
  induction tries with
  | zero => exact .inl fun k hk => absurd hk (Nat.not_lt_zero k)
  | succ tries ih =>
    rcases ih with hall | ⟨k, hk, first⟩
    · by_cases taken : s.HasVariation (data.nameWith (number + tries))
      · left
        intro k hk
        by_cases hlast : k = tries
        · rwa [hlast]
        · exact hall k (by omega)
      · exact .inr ⟨tries, Nat.lt_succ_self tries, taken, hall⟩
    · exact .inr ⟨k, by omega, first⟩

/-! ## One try -/

theorem any_name_eq_true_iff (s : MemoryStore) (name : String) :
    (s.variations.values.any fun v => v.name == name) = true ↔ s.HasVariation name := by
  rw [List.any_eq_true]
  constructor
  · intro ⟨v, hv, hname⟩
    obtain ⟨id, hid⟩ := (Table.mem_values_iff _ v).1 hv
    exact ⟨id, v, hid, by simpa using hname⟩
  · intro ⟨id, v, hid, hname⟩
    exact ⟨v, (Table.mem_values_iff _ v).2 ⟨id, hid⟩, by simpa using hname⟩

/-- A variation with a taken name is refused. -/
theorem createVariation_taken (draft : VariationDraft)
    (found : s.themes.get? parentId = some parent) (taken : s.HasVariation draft.name) :
    s.createVariation parentId draft =
      (.fail (.conflict ("variation name '" ++ draft.name ++ "' already exists")), s) := by
  have hparent : s.themes.contains parentId = true := (Table.contains_iff _ _).2 ⟨parent, found⟩
  simp [createVariation, hparent, (any_name_eq_true_iff s draft.name).2 taken]

/-- A variation with a free name is added under a fresh id. -/
theorem createVariation_free (draft : VariationDraft)
    (found : s.themes.get? parentId = some parent) (free : ¬ s.HasVariation draft.name) :
    s.createVariation parentId draft =
      (.ok (draft.toVariation (numberedId "variation" (s.freshNumber "variation")) parentId),
        { s with
          variations := s.variations.insert (numberedId "variation" (s.freshNumber "variation"))
            (draft.toVariation (numberedId "variation" (s.freshNumber "variation")) parentId)
          lastNumber := s.freshNumber "variation" }) := by
  have hparent : s.themes.contains parentId = true := (Table.contains_iff _ _).2 ⟨parent, found⟩
  have hname : ¬ (s.variations.values.any fun v => v.name == draft.name) = true := by
    rwa [any_name_eq_true_iff]
  unfold createVariation
  rw [if_neg (by simp [hparent]), if_neg hname]
  rfl

end MemoryStore

namespace ThemeEngine

variable {e : ThemeEngine MemoryStore} {parentId : String} {parent : Theme} {data : NewVariation}
  {now : Instant} {tries k : Nat} {number : Int}

/-! ## All tries -/

theorem createVariation_online (online : e.store.offline = false) (draft : VariationDraft) :
    ThemeStore.createVariation parentId draft e.store =
      (.ok (e.store.createVariation parentId draft).1,
        (e.store.createVariation parentId draft).2) := by
  simp only [ThemeStore.createVariation, MemoryStore.change, online, Bool.false_eq_true, if_false]

/-- A try that meets a taken name leaves it to the next one, if there is one. -/
theorem run_try_taken (online : e.store.offline = false)
    (found : e.store.themes.get? parentId = some parent)
    (taken : e.store.HasVariation (data.nameWith number)) :
    createVariationFrom parentId data now (tries + 1) number e =
      if tries = 0 then
        (.error (.conflict ("variation name '" ++ data.nameWith number ++ "' already exists")), e)
      else createVariationFrom parentId data now tries (number + 1) e := by
  have hstore :=
    MemoryStore.createVariation_taken (data.draft parentId now number) found taken
  rw [createVariationFrom, run_bind, run_ask, createVariation_online online, hstore]
  by_cases htries : tries = 0
  · rw [if_pos htries]
    simp only [StoreResponse.result, StoreResponse.fail, Bool.false_eq_true, if_false, htries,
      if_true]
    rfl
  · rw [if_neg htries]
    simp only [StoreResponse.result, StoreResponse.fail, Bool.false_eq_true, if_false, htries]

/-- What an engine is once a variation has been added to its store. -/
def withVariation (e : ThemeEngine MemoryStore) (v : Variation) : ThemeEngine MemoryStore :=
  { e with store := { e.store with
      variations := e.store.variations.insert v.id v
      lastNumber := e.store.freshNumber "variation" } }

/-- A new variation as the store keeps it. -/
def newVariation (e : ThemeEngine MemoryStore) (parentId : String) (data : NewVariation)
    (now : Instant) (number : Int) : Variation where
  id := MemoryStore.numberedId "variation" (e.store.freshNumber "variation")
  parentId := parentId
  name := data.nameWith number
  displayName := data.displayName.getD data.name
  pageId := data.pageId
  colors := data.colors
  styling := data.styling
  depth := 1
  lineage := [parentId]
  createdAt := now

/-- A try that meets a free name takes it. -/
theorem run_try_free (online : e.store.offline = false)
    (found : e.store.themes.get? parentId = some parent)
    (free : ¬ e.store.HasVariation (data.nameWith number)) :
    createVariationFrom parentId data now (tries + 1) number e =
      (.ok (e.newVariation parentId data now number),
        e.withVariation (e.newVariation parentId data now number)) := by
  have hstore := MemoryStore.createVariation_free (data.draft parentId now number) found free
  rw [createVariationFrom, run_bind, run_ask, createVariation_online online, hstore]
  rfl

/-- When every name is taken the last one is named in the refusal. -/
theorem run_tries_taken (online : e.store.offline = false)
    (found : e.store.themes.get? parentId = some parent)
    (taken : e.store.AllTaken data number (tries + 1)) :
    createVariationFrom parentId data now (tries + 1) number e =
      (.error (.conflict
        ("variation name '" ++ data.nameWith (number + tries) ++ "' already exists")), e) := by
  induction tries generalizing number with
  | zero =>
    rw [run_try_taken online found taken.first]
    simp
  | succ tries ih =>
    rw [run_try_taken online found taken.first, if_neg (by omega), ih taken.rest,
      MemoryStore.next_number]

/-- The first name that is free is the one that is taken. -/
theorem run_tries_free (online : e.store.offline = false)
    (found : e.store.themes.get? parentId = some parent) (hk : k < tries)
    (first : e.store.FirstFree data number k) :
    createVariationFrom parentId data now tries number e =
      (.ok (e.newVariation parentId data now (number + k)),
        e.withVariation (e.newVariation parentId data now (number + k))) := by
  induction k generalizing tries number with
  | zero =>
    obtain ⟨tries, rfl⟩ := Nat.exists_eq_add_one_of_ne_zero (Nat.ne_of_gt hk)
    have hstart : number + (0 : Nat) = number := by omega
    rw [hstart]
    exact run_try_free online found (hstart ▸ first.free)
  | succ k ih =>
    obtain ⟨tries, rfl⟩ := Nat.exists_eq_add_one_of_ne_zero (Nat.ne_of_gt (Nat.zero_lt_of_lt hk))
    rw [run_try_taken online found first.taken.first, if_neg (by omega),
      ih (by omega) first.rest, MemoryStore.next_number]

/-! ## Creating a variation -/

/-- A name that is not blank and a theme that is there are looked for first. -/
theorem run_createVariation_tries (h : e.store.Integrity) (online : e.store.offline = false)
    (named : Text.blank data.name = false) (found : e.store.themes.get? parentId = some parent)
    (now : Instant) :
    createVariation parentId data now e =
      createVariationFrom parentId data now variationTries now.millis e := by
  rw [createVariation, named]
  simp only [Bool.false_eq_true, if_false]
  rw [bind_ok (run_loadTheme_ok online found), h.theme_id parentId parent found]

/-- **The first free name.** -/
theorem createVariation_firstFree (h : e.ReachableWithEdits) (online : e.store.offline = false)
    (parentId : String) (data : NewVariation) (now : Instant) :
    (Text.blank data.name = true → createVariation parentId data now e =
      (.error (.validation (.single [.field "name"] "name is required")), e)) ∧
    (Text.blank data.name = false → e.store.themes.get? parentId = none →
      createVariation parentId data now e = (.error (.notFound .theme parentId), e)) ∧
    (Text.blank data.name = false → ∀ parent, e.store.themes.get? parentId = some parent →
      (e.store.AllTaken data now.millis 5 ∨ ∃ k < 5, e.store.FirstFree data now.millis k) ∧
      ((∃ message, (createVariation parentId data now e).1 = .error (.conflict message)) ↔
        e.store.AllTaken data now.millis 5) ∧
      (e.store.AllTaken data now.millis 5 →
        createVariation parentId data now e = (.error (.conflict
          ("variation name '" ++ data.nameWith (now.millis + 4) ++ "' already exists")), e)) ∧
      ∀ k < 5, e.store.FirstFree data now.millis k →
        e.store.hasId (e.newVariation parentId data now (now.millis + k)).id = false ∧
        createVariation parentId data now e =
          (.ok (e.newVariation parentId data now (now.millis + k)),
            e.withVariation (e.newVariation parentId data now (now.millis + k)))) := by
  refine ⟨fun blank => ?_, fun named absent => ?_, fun named parent found => ?_⟩
  · rw [createVariation, blank]
    rfl
  · rw [createVariation, named]
    simp only [Bool.false_eq_true, if_false]
    refine bind_error ?_
    simp [run_loadTheme, answered, online, MemoryStore.findTheme, absent]
  · have hrun := run_createVariation_tries h.integrity online named found now
    have htaken : e.store.AllTaken data now.millis 5 →
        createVariation parentId data now e = (.error (.conflict
          ("variation name '" ++ data.nameWith (now.millis + 4) ++ "' already exists")), e) := by
      intro taken
      rw [hrun]
      exact run_tries_taken online found taken
    have hfree : ∀ k < 5, e.store.FirstFree data now.millis k →
        createVariation parentId data now e =
          (.ok (e.newVariation parentId data now (now.millis + k)),
            e.withVariation (e.newVariation parentId data now (now.millis + k))) := by
      intro k hk first
      rw [hrun]
      exact run_tries_free online found hk first
    have hcases := e.store.allTaken_or_exists_firstFree data now.millis 5
    refine ⟨hcases, ⟨?_, fun taken => ⟨_, by rw [htaken taken]⟩⟩, htaken,
      fun k hk first => ⟨e.store.hasId_freshNumber "variation", hfree k hk first⟩⟩
    intro hconflict
    obtain ⟨message, hmessage⟩ := hconflict
    refine hcases.resolve_right fun hsome => ?_
    obtain ⟨k, hk, first⟩ := hsome
    rw [hfree k hk first] at hmessage
    cases hmessage

/-- A theme with a variation, made five milliseconds after the start of 1970. -/
def dusked : ThemeEngine MemoryStore :=
  runCalls
    [.createTheme { name := some "plain", displayName := some "Plain", category := some .light,
                    colors := some .empty },
     .createVariation "theme-1" { name := "dusk" } ⟨0, 5000000⟩] { store := {} }

/-- A second variation of the same name, made at the same time, has the next number. -/
theorem createVariation_firstFree_dusked :
    dusked.ReachableWithEdits ∧ dusked.store.offline = false ∧
    dusked.store.FirstFree { name := "dusk" } 5 1 ∧
    createVariation "theme-1" { name := "dusk" } ⟨0, 5000000⟩ dusked =
      (.ok (dusked.newVariation "theme-1" { name := "dusk" } ⟨0, 5000000⟩ 6),
        dusked.withVariation
          (dusked.newVariation "theme-1" { name := "dusk" } ⟨0, 5000000⟩ 6)) ∧
    (dusked.newVariation "theme-1" { name := "dusk" } ⟨0, 5000000⟩ 6).name = "dusk-6" := by
  have h : dusked.ReachableWithEdits := .call (.call (.opened .new none) _) _
  have first : dusked.store.FirstFree { name := "dusk" } 5 1 := by
    refine ⟨?_, ?_⟩
    · rw [← MemoryStore.any_name_eq_true_iff]
      decide
    · intro j hj
      obtain rfl : j = 0 := by omega
      rw [← MemoryStore.any_name_eq_true_iff]
      decide
  obtain ⟨-, -, hnamed⟩ := createVariation_firstFree h rfl "theme-1" { name := "dusk" } ⟨0, 5000000⟩
  exact ⟨h, rfl, first, ((hnamed (by decide) _ rfl).2.2.2 1 (by decide) first).2, by decide⟩

end ThemeEngine

end ThemedPages
