import ThemedPages.Proofs.Files.LastNames
import ThemedPages.Proofs.Files.Replaced

/-!
# Files under other names

A path that can lead to a file ends with the name of the file. So two paths that end with different
names never lead to one file, wherever they are followed, and to write, rename or remove the one
file changes nothing for the path to the other.

**Theorem (`sameAt_write`, `sameAt_remove`, `sameAt_rename`).** A path with another last name leads
to what it led to.

A file that is renamed is one that is removed and then put at the other path (`insert_of_rename`),
so what is known of those two carries over.
-/

namespace ThemedPages.FileTree

variable {t t' t'' : FileTree} {path other source target content : String}
  {place p : List String} {trouble : Option WriteTrouble} {outcome : Except FileFault Unit}

/-! ## Paths that lead to the same -/

theorem SameAt.refl (t : FileTree) (path : String) : t.SameAt t path := fun _ => Iff.rfl

theorem SameAt.trans (h : t.SameAt t' path) (h' : t'.SameAt t'' path) : t.SameAt t'' path :=
  fun e => (h' e).trans (h e)

theorem isFile_iff : t.isFile path = true ↔ ∃ e, t.find path = .ok e ∧ e ≠ .directory := by
  unfold isFile
  cases t.find path with
  | error fault => simp
  | ok e => cases e <;> simp [FileEntry.isFile]

theorem SameAt.isFile_eq (h : t.SameAt t' path) : t'.isFile path = t.isFile path := by
  rw [Bool.eq_iff_iff, isFile_iff, isFile_iff]
  constructor
  · intro ⟨e, he, hfile⟩
    exact ⟨e, (h e).1 he, hfile⟩
  · intro ⟨e, he, hfile⟩
    exact ⟨e, (h e).2 he, hfile⟩

/-- **A place of a file has one name.** -/
theorem resolve_ne_of_fileName?_ne (hresolve : t.resolve path = .ok place)
    (hplace : t.entry? place ≠ some .directory)
    (hname : Path.fileName? other ≠ Path.fileName? path) : t.resolve other ≠ .ok place := by
  intro hother
  obtain ⟨name, -, hlast, hpath⟩ := exists_last_of_resolve hresolve hplace
  obtain ⟨name', -, hlast', hother⟩ := exists_last_of_resolve hother hplace
  rw [hlast] at hlast'
  rw [hpath, hother] at hname
  exact hname hlast'.symm

/-! ## Writing and removing -/

theorem sameAt_insert (hresolve : t.resolve path = .ok place)
    (hplace : t.entry? place ≠ some .directory) {e : FileEntry} (he : e ≠ .directory)
    (hname : Path.fileName? other ≠ Path.fileName? path) :
    t.SameAt { t with entries := t.entries.insert (key place) e } other :=
  sameAt_insert_of_ne hplace he (slashFree_resolve hresolve)
    (resolve_ne_of_fileName?_ne hresolve hplace hname)

/-- A write touches one file, also where it is broken off. -/
theorem sameAt_write (h : t.write path content trouble = (outcome, t'))
    (hname : Path.fileName? other ≠ Path.fileName? path) : t.SameAt t' other := by
  rcases t.write_cases path content trouble with
    ⟨fault, hnothing⟩ | ⟨place, outcome, e, hresolve, hplace, he, -, hleft⟩
  · cases hnothing.symm.trans h
    exact SameAt.refl t other
  · cases hleft.symm.trans h
    exact sameAt_insert hresolve hplace he hname

/-- Nothing is removed, or what stands at a place that has no directory. -/
theorem remove_cases (t : FileTree) (path : String) :
    ((t.remove path).2 = t ∧ t.isFile path = false) ∨
      ∃ place, t.resolve path = .ok place ∧ t.entry? place ≠ some .directory ∧
        (t.remove path).2 = { t with entries := t.entries.erase (key place) } := by
  by_cases hfile : t.isFile path = true
  · right
    obtain ⟨e, hfind, he⟩ := isFile_iff.1 hfile
    obtain ⟨place, hresolve, hentry⟩ := exists_of_find hfind
    refine ⟨place, hresolve, fun hdirectory => ?_, remove_eq hresolve hentry he⟩
    rw [hentry] at hdirectory
    exact he (Option.some.inj hdirectory)
  · left
    rw [Bool.not_eq_true] at hfile
    exact ⟨remove_of_not_isFile hfile, hfile⟩

theorem sameDirectories_erase (hplace : t.entry? place ≠ some .directory) :
    t.SameDirectories { t with entries := t.entries.erase (key place) } := by
  refine ⟨keepsDirectories_erase hplace, ?_⟩
  intro p hp
  by_cases hdirectory : t.entry? p = some .directory
  · exact hdirectory
  · exact absurd hp (entry?_erase_ne_directory hdirectory (key place))

theorem entry?_erase_of_ne (hp : SlashFree p) (hplace : SlashFree place) (hne : place ≠ [])
    (hother : p ≠ place) :
    entry? { t with entries := t.entries.erase (key place) } p = t.entry? p := by
  by_cases hnil : p = []
  · rw [hnil]
    rfl
  · rw [entry?_eq_get? hnil, entry?_eq_get? hnil]
    dsimp only
    rw [Table.get?_erase, if_neg]
    intro hkey
    exact hother (key_injective hp hplace hnil hne hkey)

/-- **What was removed is gone.** -/
theorem isFile_remove (t : FileTree) (path : String) : (t.remove path).2.isFile path = false := by
  rcases t.remove_cases path with ⟨hsame, hfile⟩ | ⟨place, hresolve, hplace, herased⟩
  · rw [hsame, hfile]
  · rw [herased, Bool.eq_false_iff]
    intro hfile
    obtain ⟨e, hfind, -⟩ := isFile_iff.1 hfile
    obtain ⟨p, hp, hentry⟩ := exists_of_find hfind
    have hpplace := (sameDirectories_erase hplace).resolve_eq_ok_iff.1 hp
    cases hresolve.symm.trans hpplace
    rw [entry?_eq_get? (ne_nil_of_not_directory hplace)] at hentry
    dsimp only at hentry
    rw [Table.get?_erase, if_pos rfl] at hentry
    nomatch hentry

theorem sameAt_remove (t : FileTree) (hname : Path.fileName? other ≠ Path.fileName? path) :
    t.SameAt (t.remove path).2 other := by
  rcases t.remove_cases path with ⟨hsame, -⟩ | ⟨place, hresolve, hplace, herased⟩
  · rw [hsame]
    exact SameAt.refl t other
  · rw [herased]
    refine sameAt_of_entry?_eq (sameDirectories_erase hplace) fun p hp => ?_
    refine entry?_erase_of_ne (slashFree_resolve hp) (slashFree_resolve hresolve)
      (ne_nil_of_not_directory hplace) ?_
    intro heq
    exact resolve_ne_of_fileName?_ne hresolve hplace hname (heq ▸ hp)

/-! ## Renaming -/

/-- **To rename a file** is to remove it, and to put it at the other path. -/
theorem insert_of_rename (h : t.rename source target = .ok t') :
    ∃ goal e, (t.remove source).2.resolve target = .ok goal ∧
      entry? (t.remove source).2 goal ≠ some .directory ∧ e ≠ .directory ∧
      t' = { (t.remove source).2 with
        entries := (t.remove source).2.entries.insert (key goal) e } := by
  obtain ⟨-, place, goal, e, hresolve, he, hentry, hgoal, hfree, rfl⟩ := rename_eq_ok h
  have hplace : t.entry? place ≠ some .directory := by
    rw [hentry]
    exact fun hdirectory => he (Option.some.inj hdirectory)
  rw [remove_eq hresolve hentry he]
  exact ⟨goal, e, (sameDirectories_erase hplace).resolve_eq_ok_iff.2 hgoal,
    entry?_erase_ne_directory hfree (key place), he, rfl⟩

/-- What is renamed is a file. -/
theorem find_of_rename (h : t.rename source target = .ok t') :
    ∃ e, e ≠ .directory ∧ t.find source = .ok e := by
  obtain ⟨-, place, goal, e, hresolve, he, hentry, -⟩ := rename_eq_ok h
  exact ⟨e, he, find_of_resolve hresolve hentry⟩

/-- A file that was renamed is not where it was. -/
theorem isFile_rename (h : t.rename source target = .ok t')
    (hname : Path.fileName? source ≠ Path.fileName? target) : t'.isFile source = false := by
  obtain ⟨goal, e, hgoal, hfree, he, rfl⟩ := insert_of_rename h
  rw [(sameAt_insert hgoal hfree he hname).isFile_eq, isFile_remove]

theorem sameAt_rename (h : t.rename source target = .ok t')
    (hname : Path.fileName? other ≠ Path.fileName? source)
    (hname' : Path.fileName? other ≠ Path.fileName? target) : t.SameAt t' other := by
  obtain ⟨goal, e, hgoal, hfree, he, rfl⟩ := insert_of_rename h
  exact (sameAt_remove t hname).trans (sameAt_insert hgoal hfree he hname')

/-! ## A tree without files -/

theorem isFile_empty (path : String) : isFile {} path = false := by
  rw [Bool.eq_false_iff]
  intro hfile
  obtain ⟨e, hfind, he⟩ := isFile_iff.1 hfile
  obtain ⟨place, -, hentry⟩ := exists_of_find hfind
  by_cases hnil : place = []
  · rw [hnil] at hentry
    exact he (Option.some.inj hentry).symm
  · rw [entry?_eq_get? hnil] at hentry
    nomatch hentry

end ThemedPages.FileTree
