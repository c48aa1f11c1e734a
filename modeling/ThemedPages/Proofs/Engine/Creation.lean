import ThemedPages.Proofs.Engine.Coherence

/-!
# Creating records

A call that creates a theme or a variation adds one record to the store, under the fresh id of its
kind, and changes nothing else there. Pages that do not name this id keep their themes.

**Theorem (`Adds.themeOf_eq`).** A new record under an id that no assignment names shows on no page.

**Theorem (`reached_of_canGive`).** An id that a new record may still get can be reached: after
enough calls that create records, the next one gets it.
-/

namespace ThemedPages

/-! ## One more record -/

namespace MemoryStore

variable {s s' : MemoryStore} {id page : String}

/-- A store with one more record, which is not a default theme. -/
structure Adds (s : MemoryStore) (id : String) (s' : MemoryStore) : Prop where
  free : s.hasId id = false
  added : s'.hasId id = true
  themes : ∀ q, q ≠ id → s'.themes.get? q = s.themes.get? q
  variations : ∀ q, q ≠ id → s'.variations.get? q = s.variations.get? q
  ordinary : ∀ t, s'.themes.get? id = some t → t.isDefault = false
  assignments : s'.assignments = s.assignments
  offline : s'.offline = s.offline

theorem adds_of_createTheme {draft : ThemeDraft} (hc : Change s (.createTheme draft) s')
    (ordinary : draft.isDefault = false) :
    s.Adds (numberedId "theme" (s.freshNumber "theme")) s' ∧
      s'.lastNumber = s.freshNumber "theme" := by
  cases hc with
  | nothing reads => cases reads
  | createTheme d next named unused =>
    subst next named
    refine ⟨⟨s.hasId_freshNumber "theme", ?_, fun q hq => ?_, fun _ _ => rfl, fun t ht => ?_, rfl,
      rfl⟩, rfl⟩
    · exact hasId_eq_true_iff.2 ⟨.theme _, rfl, _, Table.get?_insert_self _ _ _⟩
    · simp only [Table.get?_insert, if_neg hq, demoted, ordinary, Bool.false_eq_true, if_false]
    · rw [Table.get?_insert_self] at ht
      cases ht
      exact ordinary

theorem adds_of_createVariation {parentId : String} {draft : VariationDraft}
    (hc : Change s (.createVariation parentId draft) s') :
    s.Adds (numberedId "variation" (s.freshNumber "variation")) s' ∧
      s'.lastNumber = s.freshNumber "variation" ∧ ∃ t, s.themes.get? parentId = some t := by
  cases hc with
  | nothing reads => cases reads
  | createVariation d next named found unused =>
    subst next named
    refine ⟨⟨s.hasId_freshNumber "variation", ?_, fun _ _ => rfl, fun q hq => ?_, fun t ht => ?_,
      rfl, rfl⟩, rfl, _, found⟩
    · exact hasId_eq_true_iff.2 ⟨.variation _, rfl, _, Table.get?_insert_self _ _ _⟩
    · simp only [Table.get?_insert, if_neg hq]
    · exact absurd rfl (theme_ne_of_free (s.hasId_freshNumber "variation") ht)

/-! ## What shows of it -/

/-- Where there is a record, there is a theme to show. -/
theorem Integrity.holds_iff (h : s.Integrity) {key : ThemeKey} :
    s.Holds key ↔ ∃ t, s.themeAt key = .ok t := by
  cases key with
  | theme id =>
    constructor
    · rintro ⟨t, ht⟩
      exact ⟨_, themeAt_theme_eq_ok_iff.2 ⟨t, ht, rfl⟩⟩
    · rintro ⟨_, ht⟩
      obtain ⟨t, ht, -⟩ := themeAt_theme_eq_ok_iff.1 ht
      exact ⟨t, ht⟩
  | variation id =>
    constructor
    · rintro ⟨v, hv⟩
      obtain ⟨parent, hparent⟩ := h.parent id v hv
      exact ⟨_, themeAt_variation_eq_ok_iff.2 ⟨v, parent, hv, hparent, rfl⟩⟩
    · rintro ⟨_, hv⟩
      obtain ⟨v, -, hv, -⟩ := themeAt_variation_eq_ok_iff.1 hv
      exact ⟨v, hv⟩

theorem defaultTheme?_eq_some_iff {t : Theme} :
    s.defaultTheme? = some t ↔ s.findDefault = .ok t := by
  unfold findDefault
  cases s.defaultTheme? <;> simp

theorem Adds.defaultTheme?_eq (h : s.Adds id s') (hs : s.Integrity) (hs' : s'.Integrity) :
    s'.defaultTheme? = s.defaultTheme? := by
  ext t
  have hfree := (hasId_eq_false_iff.1 h.free).1
  by_cases hid : t.id = id
  · refine iff_of_false (fun ht => ?_) fun ht => ?_
    · obtain ⟨ht, hd⟩ := hs'.findDefault_eq_ok_iff.1 (defaultTheme?_eq_some_iff.1 ht)
      rw [hid] at ht
      rw [h.ordinary t ht] at hd
      cases hd
    · have ht := hs.get?_defaultTheme ht
      rw [hid, hfree] at ht
      cases ht
  · rw [defaultTheme?_eq_some_iff, defaultTheme?_eq_some_iff, hs'.findDefault_eq_ok_iff,
      hs.findDefault_eq_ok_iff, h.themes _ hid]

theorem Adds.themeAt_eq (h : s.Adds id s') (hs : s.Integrity) {key : ThemeKey}
    (hkey : key.id ≠ id) : s'.themeAt key = s.themeAt key := by
  cases key with
  | theme q => simp only [themeAt, findTheme, h.themes q hkey]
  | variation q =>
    simp only [themeAt, findVariation, h.variations q hkey]
    cases hv : s.variations.get? q with
    | none => rfl
    | some v =>
      -- The parent is there already, so its id is not the new one.
      obtain ⟨parent, hparent⟩ := hs.parent q v hv
      simp only [Except.bind_of_ok, findTheme, h.themes _ (theme_ne_of_free h.free hparent)]

theorem names_of_key {target : AssignmentTarget} {key : ThemeKey} {state : ResolutionState}
    (hkey : target.key page = .ok (key, state)) : target.Names key.id := by
  unfold AssignmentTarget.key at hkey
  split at hkey
  · split at hkey
    · cases hkey
    · rename_i q hq
      cases hkey
      exact .inr hq
  · cases hkey
    exact .inl rfl

/-- **A new record under an id that no assignment names shows on no page.** -/
theorem Adds.themeOf_eq (h : s.Adds id s') (hs : s.Integrity) (hs' : s'.Integrity)
    (unnamed : ¬ s.Names id) (fallback : Option ResolvedTheme) (page : String) :
    s'.themeOf fallback page = s.themeOf fallback page := by
  have hdefault := h.defaultTheme?_eq hs hs'
  have hchosen : s'.chosenTheme page = s.chosenTheme page := by
    simp only [chosenTheme, target, h.assignments, findDefault, hdefault]
    cases ha : s.assignments.get? page with
    | some a =>
      cases hkey : a.target.key page with
      | error failure => simp only [hkey]; rfl
      | ok r =>
        obtain ⟨key, state⟩ := r
        have hne : key.id ≠ id := by
          rintro rfl
          exact unnamed ⟨page, a, ha, names_of_key hkey⟩
        simp only [hkey, Except.bind_of_ok, h.themeAt_eq hs hne]
    | none =>
      cases hd : s.defaultTheme? with
      | none => rfl
      | some t =>
        have hne : (ThemeKey.theme t.id).id ≠ id :=
          theme_ne_of_free h.free (hs.get?_defaultTheme hd)
        exact h.themeAt_eq hs hne
  simp only [themeOf, hchosen, standIn, hdefault]

end MemoryStore

/-! ## Calls that create -/

namespace ThemeEngine

variable {e : ThemeEngine MemoryStore} {call : EngineCall} {id : String}

/-- A call creates a record under an id. -/
inductive Gives (e : ThemeEngine MemoryStore) : EngineCall → String → Prop
  | theme {data : NewTheme} {t : Theme} (created : (createTheme data e).1 = .ok t) :
      Gives e (.createTheme data) t.id
  | variation {parentId : String} {data : NewVariation} {now : Instant} {v : Variation}
      (created : (createVariation parentId data now e).1 = .ok v) :
      Gives e (.createVariation parentId data now) v.id

theorem id_of_createTheme {s : MemoryStore} {draft : ThemeDraft} {t : Theme}
    (h : (s.createTheme draft).1 = .ok t) :
    t.id = MemoryStore.numberedId "theme" (s.freshNumber "theme") := by
  unfold MemoryStore.createTheme at h
  split at h
  · cases h
  · cases h
    rfl

theorem id_of_createVariation {s : MemoryStore} {parentId : String} {draft : VariationDraft}
    {v : Variation} (h : (s.createVariation parentId draft).1 = .ok v) :
    v.id = MemoryStore.numberedId "variation" (s.freshNumber "variation") := by
  unfold MemoryStore.createVariation at h
  split at h
  · cases h
  · split at h
    · cases h
    · cases h
      rfl

/-- A call that creates a record adds it under the fresh id of its kind. -/
theorem Gives.adds (h : e.store.Integrity) (hg : Gives e call id) :
    ∃ kind, e.store.CanCreate kind ∧
      id = MemoryStore.numberedId kind (e.store.freshNumber kind) ∧
      e.store.Adds id (perform call e).2.store ∧
      (perform call e).2.store.lastNumber = e.store.freshNumber kind := by
  cases hg with
  | @theme data t created =>
    rcases run_createTheme data e with ⟨failure, hrun⟩ | ⟨draft, t', drafted, hok, stored, hrun⟩
    · rw [hrun] at created
      cases created
    · rw [hrun] at created
      cases created
      have hid := id_of_createTheme hok
      obtain ⟨hadds, hlast⟩ := MemoryStore.adds_of_createTheme stored (draft_ordinary drafted).1
      refine ⟨"theme", .inl rfl, hid, ?_, ?_⟩
      · rw [perform, run_discard, hrun, hid]
        exact hadds
      · rw [perform, run_discard, hrun]
        exact hlast
  | @variation parentId data now v created =>
    rcases run_createVariation h parentId data now with
      ⟨failure, hrun⟩ | ⟨draft, v', hok, stored, hrun⟩
    · rw [hrun] at created
      cases created
    · rw [hrun] at created
      cases created
      have hid := id_of_createVariation hok
      obtain ⟨hadds, hlast, hparent⟩ := MemoryStore.adds_of_createVariation stored
      refine ⟨"variation", .inr ⟨rfl, parentId, hparent⟩, hid, ?_, ?_⟩
      · rw [perform, run_discard, hrun, hid]
        exact hadds
      · rw [perform, run_discard, hrun]
        exact hlast

/-- A store that is offline creates nothing. -/
theorem Gives.online (hg : Gives e call id) : e.store.offline = false := by
  cases hoff : e.store.offline with
  | false => rfl
  | true =>
    cases hg with
    | @theme data t created =>
      cases hdraft : data.draft <;>
        simp [createTheme, run_bind, hdraft, ThemeStore.createTheme, MemoryStore.change, hoff]
          at created
    | @variation parentId data now v created =>
      cases hblank : Text.blank data.name <;>
        simp [createVariation, run_bind, run_loadTheme, answered, hblank, hoff] at created

theorem Gives.canGive (h : e.store.Integrity) (hg : Gives e call id) : e.store.CanGive id := by
  obtain ⟨kind, hcreate, rfl, -⟩ := hg.adds h
  exact MemoryStore.canGive_freshNumber hcreate

/-! ## Creation is possible -/

theorem exists_longer (names : List String) : ∃ size, ∀ name ∈ names, name.length ≤ size := by
  induction names with
  | nil => exact ⟨0, by simp⟩
  | cons name names ih =>
    obtain ⟨size, hsize⟩ := ih
    refine ⟨max name.length size, fun other hother => ?_⟩
    rcases List.mem_cons.1 hother with rfl | hother
    · exact Nat.le_max_left _ _
    · exact Nat.le_trans (hsize other hother) (Nat.le_max_right _ _)

/-- A text that is not blank, and that starts no text of a list. -/
theorem exists_unused (names : List String) :
    ∃ name, Text.blank name = false ∧ ∀ rest, name ++ rest ∉ names := by
  obtain ⟨size, hsize⟩ := exists_longer names
  refine ⟨String.ofList (List.replicate (size + 1) 'x'), ?_, fun rest hmem => ?_⟩
  · have hx : Text.isBlank 'x' = false := by decide
    simp [Text.blank, List.replicate_succ, hx]
  · have hle := hsize _ hmem
    simp only [String.length_append, String.length_ofList, List.length_replicate] at hle
    omega

theorem exists_gives_theme (online : e.store.offline = false) :
    ∃ call, Gives e call (MemoryStore.numberedId "theme" (e.store.freshNumber "theme")) := by
  obtain ⟨name, hname, hunused⟩ := exists_unused (e.store.themes.values.map Theme.name)
  let data : NewTheme :=
    { name := some name, displayName := some name, category := some .custom, colors := some .empty }
  let draft : ThemeDraft :=
    { name, displayName := name, category := .custom, colors := .empty }
  have hdraft : data.draft = .ok draft := by
    simp [NewTheme.draft, presentText?, data, hname, Option.filter, draft]
  have hany : (e.store.themes.values.any fun t => t.name == draft.name) = false := by
    rw [List.any_eq_false]
    intro t ht heq
    refine hunused "" ?_
    rw [String.append_empty, ← (beq_iff_eq.1 heq : t.name = name)]
    exact List.mem_map_of_mem ht
  obtain ⟨t, hok⟩ : ∃ t, (e.store.createTheme draft).1 = .ok t := by
    unfold MemoryStore.createTheme
    rw [if_neg (by rw [hany]; exact Bool.false_ne_true)]
    exact ⟨_, rfl⟩
  have hask : ThemeStore.createTheme draft e.store =
      (.ok (.ok t), (e.store.createTheme draft).2) := by
    simp only [ThemeStore.createTheme, MemoryStore.change, online, hok, Bool.false_eq_true,
      if_false]
  have hrun : (createTheme data e).1 = .ok t := by
    rw [createTheme, run_bind, run_lift, hdraft]
    simp only
    rw [run_bind, run_ask, hask]
    rfl
  rw [← id_of_createTheme hok]
  exact ⟨_, .theme hrun⟩

theorem exists_gives_variation (h : e.store.Integrity) (online : e.store.offline = false)
    {parentId : String} {parent : Theme} (found : e.store.themes.get? parentId = some parent) :
    ∃ call, Gives e call
      (MemoryStore.numberedId "variation" (e.store.freshNumber "variation")) := by
  obtain ⟨name, hname, hunused⟩ := exists_unused (e.store.variations.values.map Variation.name)
  let data : NewVariation := { name }
  let now : Instant := ⟨0, 0⟩
  let draft := data.draft parentId now now.millis
  have hany : (e.store.variations.values.any fun v => v.name == draft.name) = false := by
    rw [List.any_eq_false]
    intro v hv heq
    refine hunused ("-" ++ toString now.millis) ?_
    have hname' : v.name = name ++ "-" ++ toString now.millis := beq_iff_eq.1 heq
    rw [← String.append_assoc, ← hname']
    exact List.mem_map_of_mem hv
  obtain ⟨v, hok⟩ : ∃ v, (e.store.createVariation parentId draft).1 = .ok v := by
    unfold MemoryStore.createVariation
    rw [if_neg (by simp [Table.contains, found]), if_neg (by rw [hany]; exact Bool.false_ne_true)]
    exact ⟨_, rfl⟩
  have hask : ThemeStore.createVariation parentId draft e.store =
      (.ok (.ok v), (e.store.createVariation parentId draft).2) := by
    simp only [ThemeStore.createVariation, MemoryStore.change, online, hok, Bool.false_eq_true,
      if_false]
  have hfrom : (createVariationFrom parentId data now variationTries now.millis e).1 = .ok v := by
    rw [variationTries, createVariationFrom, run_bind, run_ask, hask]
    rfl
  have hrun : (createVariation parentId data now e).1 = .ok v := by
    have hblank : Text.blank data.name = false := hname
    rw [createVariation, hblank]
    simp only [Bool.false_eq_true, if_false]
    rw [bind_ok (run_loadTheme_ok online found), h.theme_id parentId parent found]
    exact hfrom
  rw [← id_of_createVariation hok]
  exact ⟨_, .variation hrun⟩

/-- As long as the store is online, a record of a kind can be created. -/
theorem exists_gives (h : e.store.Integrity) (online : e.store.offline = false) {kind : String}
    (hcreate : e.store.CanCreate kind) :
    ∃ call, Gives e call (MemoryStore.numberedId kind (e.store.freshNumber kind)) := by
  rcases hcreate with rfl | ⟨rfl, parentId, parent, found⟩
  · exact exists_gives_theme online
  · exact exists_gives_variation h online found

/-! ## Reaching an id -/

theorem hasId_eq_of_adds {s s' : MemoryStore} {q : String} (h : s.Adds id s') (hq : q ≠ id) :
    s'.hasId q = s.hasId q := by
  simp only [MemoryStore.hasId, Table.contains, h.themes q hq, h.variations q hq]

theorem canCreate_of_adds {s s' : MemoryStore} {kind : String} (h : s.Adds id s')
    (hcreate : s.CanCreate kind) : s'.CanCreate kind := by
  refine hcreate.imp_right fun ⟨hkind, q, t, ht⟩ => ⟨hkind, q, t, ?_⟩
  rw [h.themes q (MemoryStore.theme_ne_of_free h.free ht), ht]

theorem runCalls_append (first next : List EngineCall) (e : ThemeEngine MemoryStore) :
    runCalls (first ++ next) e = runCalls next (runCalls first e) :=
  List.foldl_append

/-- Each record that is created takes a later number, and none passes by a number that is free. -/
theorem reached (h : e.store.Integrity) (online : e.store.offline = false) {kind : String} {n : Nat}
    (hcreate : e.store.CanCreate kind)
    (free : e.store.hasId (MemoryStore.numberedId kind n) = false)
    (later : e.store.lastNumber < n) :
    ∃ calls call, Gives (runCalls calls e) call (MemoryStore.numberedId kind n) ∧
      (runCalls calls e).store.assignments = e.store.assignments := by
  induction hk : n - e.store.lastNumber using Nat.strongRecOn generalizing e with
  | ind k ih =>
    obtain ⟨call, hg⟩ := exists_gives h online hcreate
    by_cases hn : e.store.freshNumber kind = n
    · rw [hn] at hg
      exact ⟨[], call, hg, rfl⟩
    · obtain ⟨kind', hcreate', hid, hadds, hlast⟩ := hg.adds h
      obtain ⟨rfl, -⟩ :=
        (MemoryStore.numberedId_eq_iff hcreate.isKind hcreate'.isKind).1 hid
      have hle := MemoryStore.freshNumber_le later free
      have hlt := e.store.lastNumber_lt_freshNumber kind
      have hne : MemoryStore.numberedId kind n ≠
          MemoryStore.numberedId kind (e.store.freshNumber kind) :=
        fun heq => hn (MemoryStore.numberedId_injective heq).symm
      obtain ⟨calls, next, hnext, hassignments⟩ := ih (n - (perform call e).2.store.lastNumber)
        (by omega) (integrity_perform h call) (hadds.offline.trans online)
        (canCreate_of_adds hadds hcreate) ((hasId_eq_of_adds hadds hne).trans free) (by omega) rfl
      exact ⟨call :: calls, next, hnext, hassignments.trans hadds.assignments⟩

/-- **An id that a new record may still get can be reached.** -/
theorem reached_of_canGive (h : e.store.Integrity) (online : e.store.offline = false)
    (hg : e.store.CanGive id) :
    ∃ calls call, Gives (runCalls calls e) call id ∧
      (runCalls calls e).store.assignments = e.store.assignments := by
  cases hg with
  | @ahead kind n isKind free later =>
    by_cases hcreate : e.store.CanCreate kind
    · exact reached h online hcreate free (by omega)
    · -- A variation cannot be created without a theme, so the next number goes to a theme.
      have hnext : e.store.lastNumber + 1 < n :=
        later.resolve_right fun hlater => hcreate hlater.2
      cases isKind with
      | theme => exact absurd (.inl rfl) hcreate
      | variation =>
        have hempty : ∀ q, e.store.hasId q = false := fun q =>
          eq_false_of_ne_true fun hq => hcreate (.inr ⟨rfl, h.exists_theme hq⟩)
        obtain ⟨call, hg⟩ := exists_gives_theme online
        obtain ⟨kind, hkind, hid, hadds, hlast⟩ := hg.adds h
        obtain ⟨rfl, -⟩ := (MemoryStore.numberedId_eq_iff .theme hkind.isKind).1 hid
        have hs' := integrity_perform h call
        have hle : e.store.freshNumber "theme" ≤ e.store.lastNumber + 1 :=
          MemoryStore.freshNumber_le (Nat.lt_succ_self _) (hempty _)
        have hcreate' : (perform call e).2.store.CanCreate "variation" :=
          .inr ⟨rfl, hs'.exists_theme hadds.added⟩
        have free' := (hasId_eq_of_adds hadds (MemoryStore.theme_ne_variation _ n).symm).trans free
        obtain ⟨calls, next, hgives, hassignments⟩ :=
          reached hs' (hadds.offline.trans online) hcreate' free' (by omega)
        exact ⟨call :: calls, next, hgives, hassignments.trans hadds.assignments⟩

end ThemeEngine

end ThemedPages
