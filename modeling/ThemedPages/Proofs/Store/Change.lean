import ThemedPages.Proofs.Store.FreshId
import ThemedPages.Theme.Store.Snapshot

/-!
# What requests do to a store in memory

A `StoreCall` is a request with its arguments, or the store going offline or online.
`Change s call s'` lists all that requests can do to a store, with the checks that they make before.

**Theorem (`performed`).** A request that succeeds changes the store as `Change` says; any other
request leaves the store as it is.

Every invariant of the store is therefore shown over the cases of `Change`, and carried over a
sequence of requests by `runCalls_induction`.
-/

namespace ThemedPages

/-! ## Requests -/

/-- A request to a store, or a change of whether it can be reached. -/
inductive StoreCall
  | listThemes (filter : ThemeFilter)
  | getTheme (id : String)
  | getDefaultTheme
  | createTheme (draft : ThemeDraft)
  | updateTheme (id : String) (patch : ThemePatch)
  | deleteTheme (id : String)
  | setDefaultTheme (id : String)
  | listVariations (filter : VariationFilter)
  | getVariation (id : String)
  | createVariation (parentId : String) (draft : VariationDraft)
  | getAssignment (page : String)
  | assign (page : String) (target : AssignmentTarget)
  | deleteAssignment (page : String)
  | setOffline (offline : Bool)

/-- Whether a request only asks for something. -/
def StoreCall.isRead : StoreCall → Bool
  | .listThemes _ | .getTheme _ | .getDefaultTheme | .listVariations _ | .getVariation _
  | .getAssignment _ => true
  | _ => false

namespace MemoryStore

/-- Read from the store, and tell only that it answered. -/
def answers (request : StateM MemoryStore (Answer α)) : StateM MemoryStore (Answer Bool) :=
  fun s => ((request s).1.map fun _ => true, (request s).2)

/-- Change the store, and tell only whether its response says that this was done. -/
def succeeds (request : StateM MemoryStore (Answer (StoreResponse α))) :
    StateM MemoryStore (Answer Bool) :=
  fun s => ((request s).1.map StoreResponse.success, (request s).2)

/-- Do what a request asks for, and tell whether it succeeded. -/
def perform : StoreCall → StateM MemoryStore (Answer Bool)
  | .listThemes filter => answers (ThemeStore.listThemes filter)
  | .getTheme id => answers (ThemeStore.getTheme id)
  | .getDefaultTheme => answers ThemeStore.getDefaultTheme
  | .createTheme draft => succeeds (ThemeStore.createTheme draft)
  | .updateTheme id patch => succeeds (ThemeStore.updateTheme id patch)
  | .deleteTheme id => succeeds (ThemeStore.deleteTheme id)
  | .setDefaultTheme id => succeeds (ThemeStore.setDefaultTheme id)
  | .listVariations filter => answers (ThemeStore.listVariations filter)
  | .getVariation id => answers (ThemeStore.getVariation id)
  | .createVariation parentId draft => succeeds (ThemeStore.createVariation parentId draft)
  | .getAssignment page => answers (ThemeStore.getAssignment page)
  | .assign page target => succeeds (ThemeStore.assign page target)
  | .deleteAssignment page => succeeds (ThemeStore.deleteAssignment page)
  | .setOffline offline => fun s => (.ok true, { s with offline })

/-- The store after a sequence of requests. -/
def runCalls (calls : List StoreCall) (s : MemoryStore) : MemoryStore :=
  calls.foldl (fun s call => (perform call s).2) s

/-- A store as it is opened with some contents: a new one, or one made from an accepted
snapshot. -/
inductive Opened : StoreSnapshot → MemoryStore → Prop
  | new : Opened {} {}
  | loaded {snapshot : StoreSnapshot} {s : MemoryStore} :
      ofSnapshot snapshot = .ok s → Opened snapshot s

/-! ## Changes -/

/-- The themes, none of them the default any more if there is to be another. -/
def demoted (s : MemoryStore) (isDefault : Bool) : Table Theme :=
  if isDefault then s.themes.map fun t => { t with isDefault := false } else s.themes

/-- What a request that succeeds does to a store. -/
inductive Change (s : MemoryStore) : StoreCall → MemoryStore → Prop
  | nothing {call : StoreCall} (reads : call.isRead = true) : Change s call s
  | createTheme (d : ThemeDraft) {id : String} {number : Nat}
      (next : number = s.freshNumber "theme") (named : id = numberedId "theme" number)
      (unused : ∀ q t, s.themes.get? q = some t → t.name ≠ d.name) :
      Change s (.createTheme d) { s with
        themes := (s.demoted d.isDefault).insert id (d.toTheme id), lastNumber := number }
  | updateTheme (p : ThemePatch) {id : String} {t : Theme} (found : s.themes.get? id = some t)
      (custom : t.isSystem = false) :
      Change s (.updateTheme id p) { s with themes := s.themes.insert id (p.apply t) }
  | deleteTheme {id : String} {t : Theme} (found : s.themes.get? id = some t)
      (custom : t.isSystem = false) (ordinary : t.isDefault = false) :
      Change s (.deleteTheme id) { s with
        themes := s.themes.erase id
        variations := s.variations.filter fun _ v => v.parentId != id }
  | setDefaultTheme {id : String} {t : Theme} (found : s.themes.get? id = some t) :
      Change s (.setDefaultTheme id)
        { s with themes := s.themes.map fun t => { t with isDefault := t.id == id } }
  | createVariation (d : VariationDraft) {id parentId : String} {number : Nat} {parent : Theme}
      (next : number = s.freshNumber "variation") (named : id = numberedId "variation" number)
      (found : s.themes.get? parentId = some parent)
      (unused : ∀ q v, s.variations.get? q = some v → v.name ≠ d.name) :
      Change s (.createVariation parentId d) { s with
        variations := s.variations.insert id (d.toVariation id parentId), lastNumber := number }
  | assign (page : String) (target : AssignmentTarget)
      (complete : target.isVariation = true → ∃ id, target.variationId = some id) :
      Change s (.assign page target)
        { s with assignments := s.assignments.insert page ⟨page, target⟩ }
  | deleteAssignment (page : String) :
      Change s (.deleteAssignment page) { s with assignments := s.assignments.erase page }
  | setOffline (offline : Bool) : Change s (.setOffline offline) { s with offline }

variable {s s' : MemoryStore}

theorem Change.eq_of_assign {page : String} {target : AssignmentTarget}
    (hc : Change s (.assign page target) s') :
    s' = { s with assignments := s.assignments.insert page ⟨page, target⟩ } := by
  cases hc with
  | nothing reads => cases reads
  | assign => rfl

theorem name_ne_of_not_any {rows : Table α} {nameOf : α → String} {name : String}
    (h : ¬ (rows.values.any fun x => nameOf x == name) = true) (q : String) (x : α)
    (hx : rows.get? q = some x) : nameOf x ≠ name := fun e =>
  h (List.any_eq_true.2 ⟨x, (rows.mem_values_iff x).2 ⟨q, hx⟩, by simp [e]⟩)

/-- A change was refused and not done, or it was done as the request says. -/
def Done (s : MemoryStore) (call : StoreCall) (outcome : StoreResponse α × MemoryStore) : Prop :=
  (∃ r, outcome = (.fail r, s)) ∨ ∃ x, outcome.1 = .ok x ∧ Change s call outcome.2

theorem createTheme_done (s : MemoryStore) (d : ThemeDraft) :
    s.Done (.createTheme d) (s.createTheme d) := by
  unfold MemoryStore.createTheme
  split
  · exact .inl ⟨_, rfl⟩
  · rename_i hname
    exact .inr ⟨_, rfl, .createTheme d rfl rfl (name_ne_of_not_any hname)⟩

theorem updateTheme_done (s : MemoryStore) (id : String) (p : ThemePatch) :
    s.Done (.updateTheme id p) (s.updateTheme id p) := by
  unfold MemoryStore.updateTheme
  split
  · exact .inl ⟨_, rfl⟩
  · rename_i t found
    split
    · exact .inl ⟨_, rfl⟩
    · rename_i hsystem
      exact .inr ⟨_, rfl, .updateTheme p found (by simpa using hsystem)⟩

theorem deleteTheme_done (s : MemoryStore) (id : String) :
    s.Done (.deleteTheme id) (s.deleteTheme id) := by
  unfold MemoryStore.deleteTheme
  split
  · exact .inl ⟨_, rfl⟩
  · rename_i t found
    split
    · exact .inl ⟨_, rfl⟩
    · rename_i hsystem
      split
      · exact .inl ⟨_, rfl⟩
      · rename_i hdefault
        exact .inr ⟨_, rfl, .deleteTheme found (by simpa using hsystem) (by simpa using hdefault)⟩

theorem setDefaultTheme_done (s : MemoryStore) (id : String) :
    s.Done (.setDefaultTheme id) (s.setDefaultTheme id) := by
  unfold MemoryStore.setDefaultTheme
  simp only [Table.get?_map]
  cases found : s.themes.get? id with
  | none => exact .inl ⟨_, rfl⟩
  | some t => exact .inr ⟨_, rfl, .setDefaultTheme found⟩

theorem createVariation_done (s : MemoryStore) (parentId : String) (d : VariationDraft) :
    s.Done (.createVariation parentId d) (s.createVariation parentId d) := by
  unfold MemoryStore.createVariation
  split
  · exact .inl ⟨_, rfl⟩
  · rename_i hparent
    obtain ⟨parent, found⟩ := (Table.contains_iff _ _).1 (by simpa using hparent)
    split
    · exact .inl ⟨_, rfl⟩
    · rename_i hname
      exact .inr ⟨_, rfl, .createVariation d rfl rfl found (name_ne_of_not_any hname)⟩

theorem assign_done (s : MemoryStore) (page : String) (target : AssignmentTarget) :
    s.Done (.assign page target) (s.assign page target) := by
  unfold MemoryStore.assign
  split
  · exact .inl ⟨_, rfl⟩
  · rename_i hcomplete
    refine .inr ⟨_, rfl, .assign page target fun hvariation => ?_⟩
    simpa [hvariation, Option.isNone_iff_eq_none, Option.ne_none_iff_exists'] using hcomplete

theorem deleteAssignment_done (s : MemoryStore) (page : String) :
    s.Done (.deleteAssignment page) (s.deleteAssignment page) :=
  .inr ⟨(), rfl, .deleteAssignment page⟩

/-! ## Requests change a store by changes -/

/-- A request that succeeded changed the store as it says; one that did not left the store as it
was. -/
def Performed (s : MemoryStore) (call : StoreCall) (outcome : Answer Bool × MemoryStore) : Prop :=
  (outcome.1 = .ok true ∧ Change s call outcome.2) ∨ (outcome.1 ≠ .ok true ∧ outcome.2 = s)

theorem performed_read {call : StoreCall} (reads : call.isRead = true) (request : String)
    (f : MemoryStore → α) : s.Performed call (answers (read request f) s) := by
  unfold answers read
  by_cases hoff : s.offline = true
  · exact .inr ⟨by simp [hoff, Except.map], rfl⟩
  · exact .inl ⟨by simp [hoff, Except.map], .nothing reads⟩

theorem Done.performed {call : StoreCall} {request : String}
    {f : MemoryStore → StoreResponse α × MemoryStore} (h : s.Done call (f s)) :
    s.Performed call (succeeds (change request f) s) := by
  unfold succeeds change
  by_cases hoff : s.offline = true
  · exact .inr ⟨by simp [hoff, Except.map], by simp [hoff]⟩
  · rcases h with ⟨r, hfail⟩ | ⟨x, hok, hchange⟩
    · exact .inr ⟨by simp [hoff, Except.map, hfail, StoreResponse.fail], by simp [hoff, hfail]⟩
    · refine .inl ⟨by simp [hoff, Except.map, hok, StoreResponse.ok], ?_⟩
      simpa [hoff] using hchange

/-- **Requests do nothing else.** A request that succeeds does its change; one that does not
succeed does nothing. -/
theorem performed (call : StoreCall) (s : MemoryStore) : s.Performed call (perform call s) := by
  cases call with
  | listThemes | getTheme | getDefaultTheme | listVariations | getVariation | getAssignment =>
    exact performed_read rfl _ _
  | createTheme d => exact (s.createTheme_done d).performed
  | updateTheme id p => exact (s.updateTheme_done id p).performed
  | deleteTheme id => exact (s.deleteTheme_done id).performed
  | setDefaultTheme id => exact (s.setDefaultTheme_done id).performed
  | createVariation parentId d => exact (s.createVariation_done parentId d).performed
  | assign page target => exact (s.assign_done page target).performed
  | deleteAssignment page => exact (s.deleteAssignment_done page).performed
  | setOffline offline => exact .inl ⟨rfl, .setOffline offline⟩

/-- A request that does not succeed leaves the store as it was. -/
theorem perform_refused {call : StoreCall} (h : (perform call s).1 ≠ .ok true) :
    (perform call s).2 = s := by
  rcases performed call s with ⟨hok, -⟩ | ⟨-, hsame⟩
  · exact absurd hok h
  · exact hsame

/-- What every change keeps, a sequence of requests keeps. -/
theorem runCalls_induction {P : MemoryStore → Prop}
    (step : ∀ {s s' : MemoryStore} {call : StoreCall}, P s → Change s call s' → P s')
    (calls : List StoreCall) (h : P s) : P (runCalls calls s) := by
  induction calls generalizing s with
  | nil => exact h
  | cons call calls ih =>
    refine ih ?_
    show P (perform call s).2
    rcases performed call s with ⟨-, hchange⟩ | ⟨-, hsame⟩
    · exact step h hchange
    · rw [hsame]; exact h

end MemoryStore

end ThemedPages
