import ThemedPages.Proofs.Engine.Creation

/-!
# Deleting records

A theme goes unless it is a system theme or the default, and its variations go with it. So where
there is a system theme, which can be made the default, all other themes can be deleted.

**Theorem (`exists_deleted`).** Where there is a system theme, a record that is neither a system
theme nor a variation of one can be assigned to a page and then deleted, so that its id is named and
belongs to no record.
-/

namespace ThemedPages.ThemeEngine

variable {e : ThemeEngine MemoryStore} {id page : String}

/-! ## Calls that are not refused -/

theorem store_applyTheme (online : e.store.offline = false) {isVariation : Bool} {key : ThemeKey}
    {t : ResolvedTheme} {target : AssignmentTarget} {state : ResolutionState}
    (htarget : targetOf id isVariation e = (.ok (key, t, target, state), e))
    (complete : (target.isVariation && target.variationId.isNone) = false) (page : String) :
    (perform (.applyTheme page id isVariation) e).2.store =
      { e.store with assignments := e.store.assignments.insert page ⟨page, target⟩ } := by
  have hstore : e.store.assign page target = (.ok ⟨page, target⟩,
      { e.store with assignments := e.store.assignments.insert page ⟨page, target⟩ }) := by
    rw [MemoryStore.assign, complete]
    rfl
  rw [perform, run_discard, applyTheme, bind_ok htarget]
  simp only [ask_bind_result]
  rw [bind_ok (run_request_ok (ThemeStore.assign page target) "assign page theme" rfl online
    (congrArg Prod.fst hstore)), hstore]
  rfl

/-- A record can be assigned to a page. -/
theorem exists_applyTheme (h : e.store.Integrity) (online : e.store.offline = false)
    (hid : e.store.hasId id = true) (page : String) :
    ∃ isVariation target, target.Names id ∧
      (perform (.applyTheme page id isVariation) e).2.store =
        { e.store with assignments := e.store.assignments.insert page ⟨page, target⟩ } := by
  obtain ⟨key, rfl, hkey⟩ := MemoryStore.hasId_eq_true_iff.1 hid
  cases key with
  | theme id =>
    obtain ⟨t, found⟩ := hkey
    exact ⟨false, ⟨id, none, false⟩, .inl rfl,
      store_applyTheme online (run_targetOf_theme h online found) rfl page⟩
  | variation id =>
    obtain ⟨v, found⟩ := hkey
    obtain ⟨parent, hparent⟩ := h.parent id v found
    exact ⟨true, ⟨v.parentId, some id, true⟩, .inr rfl,
      store_applyTheme online (run_targetOf_variation h online found hparent) rfl page⟩

theorem store_setDefaultTheme (online : e.store.offline = false) {t : Theme}
    (found : e.store.themes.get? id = some t) :
    (perform (.setDefaultTheme id) e).2.store = { e.store with
      themes := e.store.themes.map fun t => { t with isDefault := t.id == id } } := by
  have hstore : e.store.setDefaultTheme id = (.ok { t with isDefault := t.id == id },
      { e.store with
        themes := e.store.themes.map fun t => { t with isDefault := t.id == id } }) := by
    simp [MemoryStore.setDefaultTheme, Table.get?_map, found]
  rw [perform, run_discard, setDefaultTheme, bind_ok (run_loadTheme_ok online found)]
  simp only [ask_bind_result]
  rw [bind_ok (run_request_ok (ThemeStore.setDefaultTheme id) "set default theme" rfl online
    (congrArg Prod.fst hstore)), hstore]
  rfl

theorem store_deleteTheme (online : e.store.offline = false) {t : Theme}
    (found : e.store.themes.get? id = some t) (custom : t.isSystem = false)
    (ordinary : t.isDefault = false) :
    (perform (.deleteTheme id) e).2.store = { e.store with
      themes := e.store.themes.erase id
      variations := e.store.variations.filter fun _ v => v.parentId != id } := by
  have hstore : e.store.deleteTheme id = (.ok (), { e.store with
      themes := e.store.themes.erase id
      variations := e.store.variations.filter fun _ v => v.parentId != id }) := by
    simp [MemoryStore.deleteTheme, found, custom, ordinary]
  rw [perform, deleteTheme, bind_ok (run_loadTheme_ok online found)]
  simp only [ask_bind_result, custom, ordinary, Bool.false_eq_true, if_false]
  rw [bind_ok (run_request_ok (ThemeStore.deleteTheme id) "delete theme" rfl online
    (congrArg Prod.fst hstore)), hstore]
  rfl

/-! ## Removing a record -/

/-- A store that has lost themes and variations, and in which other themes may be the default. -/
structure Shrinks (s s' : MemoryStore) : Prop where
  themes : ∀ q t', s'.themes.get? q = some t' →
    ∃ t, s.themes.get? q = some t ∧ t'.isSystem = t.isSystem
  variations : ∀ q v, s'.variations.get? q = some v → s.variations.get? q = some v
  assignments : s'.assignments = s.assignments
  lastNumber : s'.lastNumber = s.lastNumber
  offline : s'.offline = s.offline

theorem Shrinks.refl (s : MemoryStore) : Shrinks s s :=
  ⟨fun _ t ht => ⟨t, ht, rfl⟩, fun _ _ hv => hv, rfl, rfl, rfl⟩

theorem Shrinks.trans {s₁ s₂ s₃ : MemoryStore} (h : Shrinks s₁ s₂) (h' : Shrinks s₂ s₃) :
    Shrinks s₁ s₃ where
  themes q t₃ h₃ := by
    obtain ⟨t₂, h₂, heq⟩ := h'.themes q t₃ h₃
    obtain ⟨t₁, h₁, heq'⟩ := h.themes q t₂ h₂
    exact ⟨t₁, h₁, heq.trans heq'⟩
  variations q v hv := h.variations q v (h'.variations q v hv)
  assignments := h'.assignments.trans h.assignments
  lastNumber := h'.lastNumber.trans h.lastNumber
  offline := h'.offline.trans h.offline

/-- No theme but a given system theme is the default. -/
structure DefaultsTo (g : String) (s : MemoryStore) : Prop where
  online : s.offline = false
  system : ∃ t, s.themes.get? g = some t ∧ t.isSystem = true
  ordinary : ∀ q t, s.themes.get? q = some t → q ≠ g → t.isDefault = false

theorem setDefaultTheme_defaultsTo (h : e.store.Integrity) (online : e.store.offline = false)
    {g : String} {t : Theme} (found : e.store.themes.get? g = some t)
    (system : t.isSystem = true) :
    DefaultsTo g (perform (.setDefaultTheme g) e).2.store ∧
      Shrinks e.store (perform (.setDefaultTheme g) e).2.store := by
  rw [store_setDefaultTheme online found]
  refine ⟨⟨online, ⟨{ t with isDefault := t.id == g }, ?_, system⟩, fun q t' ht' hq => ?_⟩,
    ⟨fun q t' ht' => ?_, fun _ _ hv => hv, rfl, rfl, rfl⟩⟩
  · rw [Table.get?_map, found, Option.map_some]
  · rw [Table.get?_map] at ht'
    obtain ⟨u, hu, rfl⟩ := Option.map_eq_some_iff.1 ht'
    rw [← h.theme_id q u hu] at hq
    exact beq_eq_false_iff_ne.2 hq
  · rw [Table.get?_map] at ht'
    obtain ⟨u, hu, rfl⟩ := Option.map_eq_some_iff.1 ht'
    exact ⟨u, hu, rfl⟩

/-- Once a system theme is the default, any other theme that is not one can be deleted. -/
theorem deleteTheme_absent (h : e.store.Integrity) {g a : String}
    (hg : DefaultsTo g e.store)
    (custom : ∀ t, e.store.themes.get? a = some t → t.isSystem = false) :
    (perform (.deleteTheme a) e).2.store.themes.get? a = none ∧
      DefaultsTo g (perform (.deleteTheme a) e).2.store ∧
      Shrinks e.store (perform (.deleteTheme a) e).2.store := by
  cases found : e.store.themes.get? a with
  | none =>
    have hsame : (perform (.deleteTheme a) e).2.store = e.store := by
      rcases store_perform h (.deleteTheme a) with hsame | ⟨edit, makes, hchange⟩
      · exact hsame
      · cases makes
        generalize (perform (.deleteTheme a) e).2.store = s' at hchange
        cases hchange with
        | nothing reads => rfl
        | deleteTheme found' custom' ordinary' =>
          rw [found] at found'
          cases found'
    rw [hsame]
    exact ⟨found, hg, .refl _⟩
  | some t =>
    have hcustom := custom t found
    obtain ⟨tg, htg, hsystem⟩ := hg.system
    have hne := (MemoryStore.systemTheme_ne_custom htg hsystem found hcustom).symm
    rw [store_deleteTheme hg.online found hcustom (hg.ordinary a t found hne)]
    refine ⟨by rw [Table.get?_erase, if_pos rfl],
      ⟨hg.online, ⟨tg, by rw [Table.get?_erase, if_neg hne.symm, htg], hsystem⟩,
        fun q t' ht' hq => ?_⟩,
      ⟨fun q t' ht' => ?_, fun q v hv => ?_, rfl, rfl, rfl⟩⟩
    · rw [Table.get?_erase] at ht'
      split_ifs at ht'
      exact hg.ordinary q t' ht' hq
    · rw [Table.get?_erase] at ht'
      split_ifs at ht'
      exact ⟨t', ht', rfl⟩
    · rw [Table.get?_filter, Option.filter_eq_some_iff] at hv
      exact hv.1

/-- Where there is a system theme, what belongs to no system theme can be made to go. -/
theorem exists_absent (h : e.store.Integrity) (online : e.store.offline = false) {g : String}
    {tg : Theme} (found : e.store.themes.get? g = some tg) (system : tg.isSystem = true)
    (removable : ¬ e.store.Permanent id) :
    ∃ calls, (runCalls calls e).store.hasId id = false ∧
      Shrinks e.store (runCalls calls e).store ∧
      ∃ t, (runCalls calls e).store.themes.get? g = some t := by
  -- The theme that a variation with the id hangs off.
  let parentId := ((e.store.variations.get? id).map Variation.parentId).getD id
  have hcustom : ∀ t, e.store.themes.get? id = some t → t.isSystem = false := fun t ht =>
    eq_false_of_ne_true fun hsystem => removable (.inl ⟨t, ht, hsystem⟩)
  have hparent : ∀ t, e.store.themes.get? parentId = some t → t.isSystem = false := by
    intro t ht
    cases hv : e.store.variations.get? id with
    | none => exact hcustom t (by simpa [parentId, hv] using ht)
    | some v =>
      refine eq_false_of_ne_true fun hsystem => removable (.inr ⟨v, t, hv, ?_, hsystem⟩)
      simpa [parentId, hv] using ht
  let e₁ := (perform (.setDefaultTheme g) e).2
  let e₂ := (perform (.deleteTheme id) e₁).2
  let e₃ := (perform (.deleteTheme parentId) e₂).2
  have h₁ : e₁.store.Integrity := integrity_perform h _
  have h₂ : e₂.store.Integrity := integrity_perform h₁ _
  have h₃ : e₃.store.Integrity := integrity_perform h₂ _
  obtain ⟨hdefault₁, hshrinks₁⟩ := setDefaultTheme_defaultsTo h online found system
  obtain ⟨habsent₂, hdefault₂, hshrinks₂⟩ := deleteTheme_absent h₁ hdefault₁ (a := id)
    fun t ht => by
      obtain ⟨u, hu, heq⟩ := hshrinks₁.themes id t ht
      rw [heq, hcustom u hu]
  obtain ⟨habsent₃, hdefault₃, hshrinks₃⟩ := deleteTheme_absent h₂ hdefault₂ (a := parentId)
    fun t ht => by
      obtain ⟨u, hu, heq⟩ := (hshrinks₁.trans hshrinks₂).themes parentId t ht
      rw [heq, hparent u hu]
  have hshrinks := (hshrinks₁.trans hshrinks₂).trans hshrinks₃
  refine ⟨[.setDefaultTheme g, .deleteTheme id, .deleteTheme parentId], ?_, hshrinks, ?_⟩
  · refine MemoryStore.hasId_eq_false_iff.2 ⟨?_, ?_⟩
    · cases ht : e₃.store.themes.get? id with
      | none => exact ht
      | some t =>
        obtain ⟨u, hu, -⟩ := hshrinks₃.themes id t ht
        rw [habsent₂] at hu
        cases hu
    · cases hv : e₃.store.variations.get? id with
      | none => exact hv
      | some v =>
        obtain ⟨parent, hfound⟩ := h₃.parent id v hv
        have hsame : parentId = v.parentId := by simp [parentId, hshrinks.variations id v hv]
        rw [← hsame, habsent₃] at hfound
        cases hfound
  · obtain ⟨t, ht, -⟩ := hdefault₃.system
    exact ⟨t, ht⟩

/-- **A record can be assigned and then deleted**, if there is a system theme, and the record is
neither a system theme nor a variation of one. -/
theorem exists_deleted (h : e.store.Integrity) (online : e.store.offline = false) {g : String}
    {tg : Theme} (found : e.store.themes.get? g = some tg) (system : tg.isSystem = true)
    (hid : e.store.hasId id = true) (removable : ¬ e.store.Permanent id) :
    ∃ calls, (runCalls calls e).store.Names id ∧ (runCalls calls e).store.hasId id = false ∧
      (runCalls calls e).store.lastNumber = e.store.lastNumber ∧
      ∃ t, (runCalls calls e).store.themes.get? g = some t := by
  obtain ⟨isVariation, target, hnames, hstore⟩ := exists_applyTheme h online hid ""
  let e₁ := (perform (.applyTheme "" id isVariation) e).2
  have h₁ : e₁.store.Integrity := integrity_perform h _
  have hstore₁ : e₁.store =
      { e.store with assignments := e.store.assignments.insert "" ⟨"", target⟩ } := hstore
  have found₁ : e₁.store.themes.get? g = some tg := by rw [hstore₁]; exact found
  have removable₁ : ¬ e₁.store.Permanent id := by rw [hstore₁]; exact removable
  obtain ⟨calls, habsent, hshrinks, hfound⟩ :=
    exists_absent h₁ (by rw [hstore₁]; exact online) found₁ system removable₁
  refine ⟨.applyTheme "" id isVariation :: calls, ⟨"", ⟨"", target⟩, ?_, hnames⟩, habsent, ?_,
    hfound⟩
  · show (runCalls calls e₁).store.assignments.get? "" = _
    rw [hshrinks.assignments, hstore₁]
    exact Table.get?_insert_self _ _ _
  · show (runCalls calls e₁).store.lastNumber = _
    rw [hshrinks.lastNumber, hstore₁]

end ThemedPages.ThemeEngine
