import ThemedPages.Proofs.Files.Written
import ThemedPages.Proofs.Store.Default
import ThemedPages.Proofs.Store.Rows
import ThemedPages.Proofs.Theme.Records
import ThemedPages.Proofs.Theme.Texts

/-!
# Saved stores

A store is saved as the text of its snapshot. The text is read as the value it was written from, the
value as the snapshot, and the snapshot is accepted for what the store keeps to: every check of the
loader is one of the relations of `Integrity`, except for the default theme, which a store may be
without.

**Theorem (`saved_loads`).** A reachable store that has no theme, or one default theme, is loaded
again from its text and from the file that it was saved to, with the same three tables.
-/

namespace ThemedPages.MemoryStore

variable {snapshot : StoreSnapshot} {s : MemoryStore} {files files' : FileTree} {path : String}

/-! ## The snapshot of a store -/

/-- **The snapshot of a store is in order**, apart from the default theme. -/
theorem Integrity.loadable (h : s.Integrity)
    (hdefault : s.themes.values = [] ∨ s.defaults.length = 1) : Loadable s.snapshot where
  one_default := hdefault
  theme_names := h.theme_names.nodup
  variation_names := h.variation_names.nodup
  parent v hv := by
    obtain ⟨id, hid⟩ := (Table.mem_values_iff _ _).1 hv
    obtain ⟨t, ht⟩ := h.parent id v hid
    rw [← h.theme_id _ _ ht]
    exact List.mem_map_of_mem ((Table.mem_values_iff _ _).2 ⟨_, ht⟩)
  complete a ha := by
    obtain ⟨page, hpage⟩ := (Table.mem_values_iff _ _).1 ha
    exact h.complete page a hpage

theorem Integrity.tables_snapshot (h : s.Integrity) :
    s.snapshot.tables = { s with lastNumber := 0, offline := false } := by
  simp only [StoreSnapshot.tables, snapshot, Table.keyed_values h.theme_id,
    Table.keyed_values h.variation_id, Table.keyed_values h.assignment_page]

/-- **A snapshot is loaded as the store it was taken of.** -/
theorem Integrity.ofSnapshot_snapshot (h : s.Integrity)
    (hdefault : s.themes.values = [] ∨ s.defaults.length = 1) :
    ofSnapshot s.snapshot = .ok { s with lastNumber := 0, offline := false } := by
  rw [ofSnapshot_eq_ok (h.loadable hdefault), h.tables_snapshot]

/-! ## The file of a store -/

/-- **The text of a store is read as its snapshot.** -/
theorem read_saveText (hvalid : ∀ v ∈ s.variations.values, v.createdAt.IsValid) :
    (Json.read? StoreSnapshot.shape s.saveText).bind StoreSnapshot.ofValue? =
      some s.snapshot := by
  rw [saveText, StoreSnapshot.read?_writePretty, Option.bind_some]
  exact StoreSnapshot.ofValue?_toValue hvalid

theorem load_of_find (hfind : files.find path = .ok (.text s.saveText))
    (hvalid : ∀ v ∈ s.variations.values, v.createdAt.IsValid) :
    load files path = ofSnapshot s.snapshot := by
  have hread := read_saveText hvalid
  rw [Json.read?] at hread
  simp only [load, FileTree.readLetters_of_find hfind, hread]

theorem save_eq_ok (h : s.save files path = .ok files') :
    files.write path s.saveText = (.ok (), files') := by
  unfold save at h
  split at h
  · rename_i hwrite
    cases h
    exact hwrite
  · cases h

/-- **A saved store is loaded from its file.** -/
theorem load_save (h : s.save files path = .ok files')
    (hvalid : ∀ v ∈ s.variations.values, v.createdAt.IsValid) :
    load files' path = ofSnapshot s.snapshot :=
  load_of_find (FileTree.find_write (save_eq_ok h)) hvalid

/-! ## Reachable stores -/

/-- **Reachable stores load back.** -/
theorem saved_loads (h : Opened snapshot s) (calls : List StoreCall) {final : MemoryStore}
    (hfinal : runCalls calls s = final)
    (hdefault : final.themes.values = [] ∨ final.defaults.length = 1)
    (hvalid : ∀ v ∈ final.variations.values, v.createdAt.IsValid) :
    (Json.read? StoreSnapshot.shape final.saveText).bind StoreSnapshot.ofValue? =
        some final.snapshot ∧
      ofSnapshot final.snapshot = .ok { final with lastNumber := 0, offline := false } ∧
      ∀ files path files', final.save files path = .ok files' →
        load files' path = .ok { final with lastNumber := 0, offline := false } := by
  have hintegrity : final.Integrity := hfinal ▸ (integrity_opened h).run calls
  have hload := hintegrity.ofSnapshot_snapshot hdefault
  refine ⟨read_saveText hvalid, hload, fun files path files' hsave => ?_⟩
  rw [load_save hsave hvalid, hload]

theorem saved_loads_of_lightAndDark :
    ∃ s final, Opened lightAndDark s ∧
      runCalls [.createTheme plainDraft, .setDefaultTheme "dark", .setOffline true] s = final ∧
      final.defaults.length = 1 ∧ (∀ v ∈ final.variations.values, v.createdAt.IsValid) ∧
      (Json.read? StoreSnapshot.shape final.saveText).bind StoreSnapshot.ofValue? =
        some final.snapshot ∧
      ∃ loaded, ofSnapshot final.snapshot = .ok loaded ∧ loaded.themes = final.themes ∧
        loaded.variations = final.variations ∧ loaded.assignments = final.assignments := by
  obtain ⟨s, hs⟩ : ∃ s, ofSnapshot lightAndDark = .ok s := ⟨_, rfl⟩
  obtain ⟨final, hfinal⟩ : ∃ final,
      runCalls [.createTheme plainDraft, .setDefaultTheme "dark", .setOffline true] s = final :=
    ⟨_, rfl⟩
  have hone : final.defaults.length = 1 := by
    rw [← hfinal]
    cases hs
    decide
  have hepoch : ∀ v ∈ final.variations.values, v.createdAt = ⟨0, 0⟩ := by
    rw [← hfinal]
    cases hs
    decide
  have hvalid : ∀ v ∈ final.variations.values, v.createdAt.IsValid := fun v hv => by
    rw [hepoch v hv]
    exact { date := by decide, nanos := by decide }
  obtain ⟨hread, hload, -⟩ := saved_loads (.loaded hs) _ hfinal (.inr hone) hvalid
  exact ⟨s, final, .loaded hs, hfinal, hone, hvalid, hread, _, hload, rfl, rfl, rfl⟩

/-! ## Stores that were loaded -/

/-- A file holds a snapshot. -/
def HoldsSnapshot (files : FileTree) (path : String) (snapshot : StoreSnapshot) : Prop :=
  ∃ letters, files.readLetters path = .ok letters ∧
    (Json.readLetters? StoreSnapshot.shape letters).bind StoreSnapshot.ofValue? = some snapshot

theorem load_ok (h : load files path = .ok s) :
    ∃ snapshot, HoldsSnapshot files path snapshot ∧ ofSnapshot snapshot = .ok s := by
  unfold load at h
  split at h
  · cases h
  · rename_i letters hletters
    split at h
    · cases h
    · rename_i snapshot hsnapshot
      exact ⟨snapshot, ⟨letters, hletters, hsnapshot⟩, h⟩

/-- The times of a store that was loaded from a file can be written. -/
theorem isValid_of_load (h : load files path = .ok s) :
    ∀ v ∈ s.variations.values, v.createdAt.IsValid := by
  obtain ⟨snapshot, ⟨letters, -, hread⟩, hload⟩ := load_ok h
  obtain ⟨x, -, hx⟩ := Option.bind_eq_some_iff.1 hread
  rw [eq_tables hload]
  exact fun v hv => StoreSnapshot.isValid_of_ofValue? hx v (Table.mem_of_mem_keyed hv)

/-- The default theme of a snapshot is not followed by a theme of the same id, which would be kept
in its place. -/
def KeepsDefault (s : StoreSnapshot) : Prop :=
  ∃ before t after, s.themes = before ++ t :: after ∧ t.isDefault = true ∧
    t.id ∉ after.map Theme.id

theorem hasDefault_loaded_iff (h : ofSnapshot snapshot = .ok s) :
    s.HasDefault ↔ KeepsDefault snapshot := by
  rw [eq_tables h]
  constructor
  · rintro ⟨id, t, ht, hmark⟩
    obtain ⟨before, after, hlist, rfl, hafter⟩ := Table.get?_keyed_eq_some_iff.1 ht
    exact ⟨before, t, after, hlist, hmark, hafter⟩
  · rintro ⟨before, t, after, hlist, hmark, hafter⟩
    exact ⟨t.id, t, Table.get?_keyed_eq_some_iff.2 ⟨before, after, hlist, rfl, hafter⟩, hmark⟩

/-- Why themes without a default theme are not loaded. -/
def noDefaultFailure : Failure :=
  .configuration "theme snapshot must mark exactly one default theme, found 0"

theorem ofSnapshot_of_not_hasDefault (hthemes : s.themes.values ≠ []) (hdefault : ¬s.HasDefault) :
    ofSnapshot s.snapshot = .error noDefaultFailure := by
  have hnone : s.snapshot.themes.filter Theme.isDefault = [] := defaults_eq_nil_iff.2 hdefault
  have hempty : s.snapshot.themes.isEmpty = false := by
    rw [List.isEmpty_eq_false_iff]
    exact hthemes
  simp only [ofSnapshot, hnone, hempty]
  rfl

end ThemedPages.MemoryStore
