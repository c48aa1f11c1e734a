import ThemedPages.Proofs.Engine.Deletion

/-!
# Ids of deleted records

A page whose theme was deleted is to keep the default theme until it is assigned anew, so the id of
a deleted record, which its assignment still names, must not go to another record (`RetiresIds`).
But new ids are only kept apart from the ids of records, and the count of ids that were given starts
again with every loaded snapshot (`revived_by_createTheme`).

**Theorem (`retiresIds_iff`).** The ids of deleted records stay retired in all runs from a snapshot
iff no run comes to a store where an assignment names an id that a new record may still get. This
holds of every snapshot in which ids of the form that new records get are neither named nor taken,
but by system themes and their variations; and where there is a system theme, of no other.
-/

namespace ThemedPages

/-- A call assigns a page or takes its assignment away. -/
inductive EngineCall.Assigns (page : String) : EngineCall → Prop
  | applyTheme (id : String) (isVariation : Bool) : Assigns page (.applyTheme page id isVariation)
  | resetTheme : Assigns page (.resetTheme page)

/-- No assignment names an id that a new record may still get. -/
def MemoryStore.Settled (s : MemoryStore) : Prop := ∀ id, s.Names id → ¬ s.CanGive id

namespace ThemeEngine

/-- New records do not take the place of deleted ones. -/
structure RetiresIds (e : ThemeEngine MemoryStore) : Prop where
  /-- The id of a new record is named by no assignment. -/
  unnamed : ∀ call id, Gives e call id → ¬ e.store.Names id
  /-- A new record shows on no page. -/
  frame : ∀ call id, Gives e call id → ∀ page,
    (pageTheme page (perform call e).2).1 = (pageTheme page e).1
  /-- A page whose assigned theme is not there has the default theme until it is assigned anew. -/
  lost : ∀ page a, e.store.assignments.get? page = some a →
    (∀ t, e.store.chosenTheme page ≠ .ok t) →
    ∀ calls, (∀ call ∈ calls, ¬ call.Assigns page) → (runCalls calls e).store.offline = false →
      ∀ t, (runCalls calls e).store.defaultTheme? = some t →
        (pageTheme page (runCalls calls e)).1 = .ok t.resolved

variable {e : ThemeEngine MemoryStore} {page : String} {key : ThemeKey}

/-! ## Lost pages -/

/-- A page is assigned to something that is not there. -/
structure Lost (page : String) (key : ThemeKey) (s : MemoryStore) : Prop where
  assigned : ∃ a state, s.assignments.get? page = some a ∧ a.target.key page = .ok (key, state)
  missing : ¬ s.Holds key

theorem Lost.chosenTheme {s : MemoryStore} (hl : Lost page key s) (h : s.Integrity) :
    ∃ failure, s.chosenTheme page = .error failure := by
  obtain ⟨a, state, ha, hkey⟩ := hl.assigned
  have htarget : s.target page = .ok (key, state) :=
    MemoryStore.target_eq_ok_iff.2 (.inl ⟨a, ha, hkey⟩)
  cases ht : s.themeAt key with
  | ok t => exact absurd (h.holds_iff.2 ⟨t, ht⟩) hl.missing
  | error failure => exact ⟨failure, by simp [MemoryStore.chosenTheme, htarget, ht]⟩

theorem lost_of_chosenTheme {s : MemoryStore} (h : s.Integrity) {a : Assignment}
    (ha : s.assignments.get? page = some a) (hnone : ∀ t, s.chosenTheme page ≠ .ok t) :
    ∃ key, Lost page key s := by
  obtain ⟨⟨key, state⟩, hkey⟩ : ∃ r, a.target.key page = .ok r := by
    unfold AssignmentTarget.key
    split
    · rename_i hvariation
      obtain ⟨id, hid⟩ := h.complete page a ha hvariation
      rw [hid]
      exact ⟨_, rfl⟩
    · exact ⟨_, rfl⟩
  refine ⟨key, ⟨a, state, ha, hkey⟩, fun hholds => ?_⟩
  obtain ⟨t, ht⟩ := h.holds_iff.1 hholds
  have htarget : s.target page = .ok (key, state) :=
    MemoryStore.target_eq_ok_iff.2 (.inl ⟨a, ha, hkey⟩)
  exact hnone t (by simp [MemoryStore.chosenTheme, htarget, ht])

/-- In a settled store, a lost page stays lost until it is assigned anew. -/
theorem Lost.perform (hl : Lost page key e.store) (h : e.store.Integrity)
    (settled : e.store.Settled) {call : EngineCall} (hcall : ¬ call.Assigns page) :
    Lost page key (ThemeEngine.perform call e).2.store := by
  obtain ⟨a, state, ha, hkey⟩ := hl.assigned
  rcases store_perform h call with hsame | ⟨edit, makes, hchange⟩
  · rwa [hsame]
  · have hrow := MemoryStore.assignments_change hchange page
      (by rintro target rfl; cases makes; exact hcall (.applyTheme _ _))
      (by rintro rfl; cases makes; exact hcall .resetTheme)
    refine ⟨⟨a, state, hrow.trans ha, hkey⟩, fun hholds => ?_⟩
    rcases MemoryStore.holds_change hchange hholds with hholds | ⟨kind, hcreate, hid, -⟩
    · exact hl.missing hholds
    · refine settled key.id ⟨page, a, ha, MemoryStore.names_of_key hkey⟩ ?_
      rw [hid]
      exact MemoryStore.canGive_freshNumber hcreate

/-! ## Settled runs -/

theorem Lost.run (hl : Lost page key e.store) (h : e.store.Integrity) {calls : List EngineCall}
    (settled : ∀ first, (runCalls first e).store.Settled)
    (hcalls : ∀ call ∈ calls, ¬ call.Assigns page) : Lost page key (runCalls calls e).store := by
  induction calls generalizing e with
  | nil => exact hl
  | cons call calls ih =>
    exact ih (hl.perform h (settled []) (hcalls call List.mem_cons_self)) (integrity_perform h call)
      (fun first => settled (call :: first))
      fun c hc => hcalls c (List.mem_cons_of_mem call hc)

theorem Lost.pageTheme (hl : Lost page key e.store) (h : e.Coherent)
    (online : e.store.offline = false) {t : Theme} (ht : e.store.defaultTheme? = some t) :
    (ThemeEngine.pageTheme page e).1 = .ok t.resolved := by
  obtain ⟨failure, hfailure⟩ := hl.chosenTheme h.integrity
  rw [h.served_eq_themeOf online (served_pageTheme h.integrity page)]
  simp only [MemoryStore.themeOf, hfailure, MemoryStore.standIn, ht]

theorem pageTheme_of_gives (h : e.Coherent) {call : EngineCall} {id : String}
    (hg : Gives e call id) (unnamed : ¬ e.store.Names id) (online : e.store.offline = false) :
    (pageTheme page (perform call e).2).1 = (pageTheme page e).1 := by
  obtain ⟨kind, -, -, hadds, -⟩ := hg.adds h.integrity
  have h' := h.perform call
  rw [h'.served_eq_themeOf (hadds.offline.trans online) (served_pageTheme h'.integrity page),
    h.served_eq_themeOf online (served_pageTheme h.integrity page),
    fallback_perform h.integrity call, hadds.themeOf_eq h.integrity h'.integrity unnamed]

/-- **As long as all stores to come are settled**, ids stay retired. -/
theorem retiresIds_of_settled (h : e.Coherent)
    (settled : ∀ calls, (runCalls calls e).store.Settled) : RetiresIds e where
  unnamed call id hg hnames := settled [] id hnames (hg.canGive h.integrity)
  frame call id hg page := by
    refine pageTheme_of_gives h hg (fun hnames => ?_) hg.online
    exact settled [] id hnames (hg.canGive h.integrity)
  lost page a ha hnone calls hcalls online t ht := by
    obtain ⟨key, hl⟩ := lost_of_chosenTheme h.integrity ha hnone
    exact (hl.run h.integrity settled hcalls).pageTheme (h.run calls) online ht

/-- **In a store that is not settled**, an id can be revived. -/
theorem settled_of_retiresIds (h : e.store.Integrity)
    (retires : ∀ calls, RetiresIds (runCalls calls e)) : e.store.Settled := by
  intro id hnames hg
  -- Creating needs the store to be online, which changes neither rows nor numbers.
  let e₁ := (perform (.setOffline false) e).2
  have h₁ : e₁.store.Integrity := integrity_perform h _
  have hg₁ : e₁.store.CanGive id := by
    cases hg with
    | ahead isKind free later => exact .ahead isKind free later
  obtain ⟨calls, call, hgives, hassignments⟩ := reached_of_canGive h₁ rfl hg₁
  refine (retires (.setOffline false :: calls)).unnamed call id hgives ?_
  obtain ⟨page, a, ha, hid⟩ := hnames
  exact ⟨page, a, by rw [← ha]; exact congrArg (fun rows => rows.get? page) hassignments, hid⟩

/-! ## Anchored snapshots -/

theorem anchored_perform (h : e.store.Integrity) (hanchored : e.store.Anchored)
    (call : EngineCall) : (perform call e).2.store.Anchored := by
  rcases made_perform h call with quiet | ⟨-, edits, quiet⟩
  · rwa [quiet.store_eq]
  · rw [quiet.store_eq]
    refine hanchored.change edits.change ?_
    rintro page target rfl
    cases edits with
    | assign stored leads found known => exact known

theorem settled_of_anchored {s : MemoryStore} (h : s.Anchored) : s.Settled := by
  intro id hnames hg
  cases hg with
  | ahead isKind free later =>
    have hpermanent := h _ _ isKind (by omega) (.inr hnames)
    rw [hpermanent.hasId] at free
    cases free

theorem settled_run (h : e.store.Integrity) (hanchored : e.store.Anchored)
    (calls : List EngineCall) : (runCalls calls e).store.Settled := by
  have hboth : (runCalls calls e).store.Integrity ∧ (runCalls calls e).store.Anchored :=
    runCalls_induction (P := fun e => e.store.Integrity ∧ e.store.Anchored)
      (fun call _ _ h => ⟨integrity_perform h.1 call, anchored_perform h.1 h.2 call⟩)
      ⟨h, hanchored⟩
  exact settled_of_anchored hboth.2

/-- With a system theme at hand, nothing but anchored ids is safe: other records can be deleted
while assignments name them, and their numbers are still to come. -/
theorem anchored_of_retiresIds (h : e.store.Integrity) (online : e.store.offline = false)
    {g : String} {t : Theme} (found : e.store.themes.get? g = some t)
    (system : t.isSystem = true) (retires : ∀ calls, RetiresIds (runCalls calls e)) :
    e.store.Anchored := by
  intro kind n hk hn hid
  by_contra hremovable
  obtain ⟨calls, hnames, free, hlast, t', found'⟩ : ∃ calls,
      (runCalls calls e).store.Names (MemoryStore.numberedId kind n) ∧
      (runCalls calls e).store.hasId (MemoryStore.numberedId kind n) = false ∧
      (runCalls calls e).store.lastNumber = e.store.lastNumber ∧
      ∃ t, (runCalls calls e).store.themes.get? g = some t := by
    cases htaken : e.store.hasId (MemoryStore.numberedId kind n) with
    | true => exact exists_deleted h online found system htaken hremovable
    | false =>
      have hnames := hid.resolve_left (by rw [htaken]; exact Bool.false_ne_true)
      exact ⟨[], hnames, htaken, rfl, t, found⟩
  have hsettled := settled_of_retiresIds (integrity_runCalls h calls) fun next => by
    rw [← runCalls_append]
    exact retires _
  refine hsettled _ hnames (.ahead hk free ?_)
  rcases Nat.lt_or_eq_of_le hn with hlt | heq
  · exact .inl (by rw [hlast]; exact hlt)
  · refine .inr ⟨by rw [hlast]; exact heq, ?_⟩
    cases hk with
    | theme => exact .inl rfl
    | variation => exact .inr ⟨rfl, g, t', found'⟩

/-! ## Which snapshots are safe -/

theorem numberedId_head {kind : String} (hk : MemoryStore.IsKind kind) (n : Nat) :
    (MemoryStore.numberedId kind n).toList.head? = some 't' ∨
      (MemoryStore.numberedId kind n).toList.head? = some 'v' := by
  cases hk
  · exact .inl (by simp [MemoryStore.numberedId])
  · exact .inr (by simp [MemoryStore.numberedId])

/-- No id of the snapshot is of the form that new records get. -/
theorem anchored_of_lightAndDark {s : MemoryStore}
    (hs : MemoryStore.ofSnapshot MemoryStore.lightAndDark = .ok s) : s.Anchored := by
  intro kind n hk hn hid
  have hhead := numberedId_head hk n
  generalize MemoryStore.numberedId kind n = id at hid hhead ⊢
  cases hs
  have hmem : id ∈ ["dark", "light", "dusk"] := by
    rcases hid with hid | ⟨page, a, ha, hid⟩
    · exact (MemoryStore.hasId_iff_mem _ id).1 hid
    · have hrow : a ∈ [(⟨"home", "dark", some "dusk", true⟩ : Assignment)] :=
        (Table.mem_values_iff _ a).2 ⟨page, ha⟩
      rw [List.mem_singleton] at hrow
      subst hrow
      rcases hid with rfl | hid
      · simp
      · cases hid
        simp
  simp only [List.mem_cons, List.not_mem_nil, or_false] at hmem
  rcases hmem with rfl | rfl | rfl <;> simp at hhead

/-- **When ids stay retired.** -/
theorem retiresIds_iff {snapshot : StoreSnapshot} {s : MemoryStore}
    (accepted : MemoryStore.ofSnapshot snapshot = .ok s) (fallback : Option ResolvedTheme) :
    ((∀ calls, RetiresIds (runCalls calls { store := s, fallback })) ↔
        ∀ calls, (runCalls calls { store := s, fallback }).store.Settled) ∧
      (s.Anchored → ∀ calls, RetiresIds (runCalls calls { store := s, fallback })) ∧
      ((∃ id t, s.themes.get? id = some t ∧ t.isSystem = true) →
        (∀ calls, RetiresIds (runCalls calls { store := s, fallback })) → s.Anchored) := by
  have hs := MemoryStore.integrity_loaded accepted
  have hcoherent := coherent_new hs fallback
  have hretires : (∀ calls, (runCalls calls { store := s, fallback }).store.Settled) →
      ∀ calls, RetiresIds (runCalls calls { store := s, fallback }) := by
    intro hsettled calls
    refine retiresIds_of_settled (hcoherent.run calls) fun next => ?_
    rw [← runCalls_append]
    exact hsettled _
  refine ⟨⟨fun hall calls => ?_, hretires⟩, fun hanchored => ?_,
    fun ⟨g, t, found, system⟩ hall => ?_⟩
  · refine settled_of_retiresIds (hcoherent.run calls).integrity fun next => ?_
    rw [← runCalls_append]
    exact hall _
  · exact hretires fun calls => settled_run (e := { store := s, fallback }) hs hanchored calls
  · exact anchored_of_retiresIds (e := { store := s, fallback }) hs
      (MemoryStore.online_loaded accepted) found system hall

theorem retiresIds_of_lightAndDark :
    ∃ s, MemoryStore.ofSnapshot MemoryStore.lightAndDark = .ok s ∧
      ∀ calls, RetiresIds (runCalls calls { store := s }) := by
  obtain ⟨s, hs⟩ : ∃ s, MemoryStore.ofSnapshot MemoryStore.lightAndDark = .ok s := ⟨_, rfl⟩
  exact ⟨s, hs, (retiresIds_iff hs none).2.1 (anchored_of_lightAndDark hs)⟩

/-- A theme with the id that the next new theme gets, and a page that is assigned to it. -/
def revivable : StoreSnapshot where
  themes :=
    [{ id := "light", name := "light", displayName := "Light", category := .light,
       colors := .empty, isSystem := true, isDefault := true },
     { id := "theme-1", name := "old", displayName := "Old", category := .dark, colors := .empty }]
  assignments := [⟨"home", "theme-1", none, false⟩]

/-- A theme that has nothing to do with any page. -/
def newcomer : NewTheme where
  name := some "new"
  displayName := some "New"
  category := some .colorful
  colors := some .empty

/-- **A deleted id is revived.** The page lost its theme and shows the default theme, until a new
theme gets the id. -/
theorem revived_by_createTheme :
    ∃ s t, MemoryStore.ofSnapshot revivable = .ok s ∧
      (createTheme newcomer (runCalls [.deleteTheme "theme-1"] { store := s })).1 = .ok t ∧
      (runCalls [.deleteTheme "theme-1"] { store := s }).store.Names t.id ∧
      ((pageTheme "home" (runCalls [.deleteTheme "theme-1"] { store := s })).1.map
        ResolvedTheme.name) = .ok "light" ∧
      ((pageTheme "home"
        (runCalls [.deleteTheme "theme-1", .createTheme newcomer] { store := s })).1.map
          ResolvedTheme.name) = .ok "new" :=
  ⟨_, _, rfl, rfl, ⟨"home", _, rfl, .inl rfl⟩, rfl, rfl⟩

end ThemeEngine

end ThemedPages
