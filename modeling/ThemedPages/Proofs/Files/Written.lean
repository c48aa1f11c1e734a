import ThemedPages.Files.Tree
import ThemedPages.Proofs.Running
import Mathlib.Tactic.SplitIfs

/-!
# Files that were written

A path is followed by way of directories alone, so it leads to the same place in another tree that
still has all the directories. Writing and renaming change nothing but files.

**Theorem (`find_write`).** A path leads to what was written to it.

**Theorem (`find_write_brokenOff`).** After a write that was broken off it leads to as much of it as
the disk has taken.

**Theorem (`find_rename`).** A path that a file was renamed to leads to that file.
-/

namespace ThemedPages.FileTree

variable {t t' : FileTree} {path source target content : String} {place : List String}
  {e : FileEntry} {trouble : Option WriteTrouble} {halt : Option FileFault}

/-! ## Trees with the same directories -/

/-- All directories of a tree are directories of another. -/
def KeepsDirectories (t t' : FileTree) : Prop :=
  ∀ p, t.entry? p = some .directory → t'.entry? p = some .directory

theorem walk_of_keepsDirectories (h : t.KeepsDirectories t') {pieces p goal : List String}
    (hwalk : t.walk p pieces = .ok goal) : t'.walk p pieces = .ok goal := by
  induction pieces generalizing p with
  | nil => exact hwalk
  | cons piece rest ih =>
    rw [walk] at hwalk ⊢
    split at hwalk
    · cases hwalk
    · rename_i hdirectory
      rw [h p hdirectory]
      simp only
      split_ifs at hwalk ⊢
      · exact ih hwalk
      · exact ih hwalk
      · exact ih hwalk
    · cases hwalk

theorem resolve_of_keepsDirectories (h : t.KeepsDirectories t')
    (hresolve : t.resolve path = .ok place) : t'.resolve path = .ok place := by
  unfold resolve at hresolve ⊢
  split_ifs at hresolve ⊢
  exact walk_of_keepsDirectories h hresolve

theorem find_of_resolve (hresolve : t.resolve path = .ok place) (he : t.entry? place = some e) :
    t.find path = .ok e := by
  rw [find, hresolve, Except.bind_of_ok]
  simp only [he]
  rfl

theorem exists_of_find (h : t.find path = .ok e) :
    ∃ place, t.resolve path = .ok place ∧ t.entry? place = some e := by
  obtain ⟨place, hresolve, hentry⟩ := Except.exists_of_bind h
  refine ⟨place, hresolve, ?_⟩
  split at hentry
  · rename_i found
    cases hentry
    exact found
  · cases hentry

theorem KeepsDirectories.isDirectory (h : t.KeepsDirectories t')
    (hdirectory : t.isDirectory path = true) : t'.isDirectory path = true := by
  unfold FileTree.isDirectory at hdirectory ⊢
  split at hdirectory
  · rename_i hfind
    obtain ⟨place, hresolve, hentry⟩ := exists_of_find hfind
    rw [find_of_resolve (resolve_of_keepsDirectories h hresolve) (h place hentry)]
  · cases hdirectory

/-! ## Changed files -/

theorem entry?_eq_get? (hplace : place ≠ []) : t.entry? place = t.entries.get? (key place) := by
  unfold entry?
  rw [if_neg (by simpa using hplace)]

theorem ne_nil_of_not_directory (h : t.entry? place ≠ some .directory) : place ≠ [] := by
  intro hnil
  rw [hnil] at h
  exact h rfl

theorem key_ne_of_directory {p : List String} (hp : t.entry? p = some .directory) (hne : p ≠ [])
    (hplace : t.entry? place ≠ some .directory) : key p ≠ key place := by
  intro hkey
  rw [entry?_eq_get? (ne_nil_of_not_directory hplace), ← hkey, ← entry?_eq_get? hne] at hplace
  exact hplace hp

/-- A file that is put where no directory is takes no directory away. -/
theorem keepsDirectories_insert (hplace : t.entry? place ≠ some .directory) (e : FileEntry) :
    t.KeepsDirectories { t with entries := t.entries.insert (key place) e } := by
  intro p hp
  by_cases hne : p = []
  · rw [hne]
    rfl
  · have hkey := key_ne_of_directory hp hne hplace
    rw [entry?_eq_get? hne] at hp ⊢
    simp only [Table.get?_insert, if_neg hkey, hp]

/-- A file that is taken away is no directory. -/
theorem keepsDirectories_erase (hplace : t.entry? place ≠ some .directory) :
    t.KeepsDirectories { t with entries := t.entries.erase (key place) } := by
  intro p hp
  by_cases hne : p = []
  · rw [hne]
    rfl
  · have hkey := key_ne_of_directory hp hne hplace
    rw [entry?_eq_get? hne] at hp ⊢
    simp only [Table.get?_erase, if_neg hkey, hp]

/-- Where no directory was, taking a file away makes none. -/
theorem entry?_erase_ne_directory {goal : List String} (hgoal : t.entry? goal ≠ some .directory)
    (k : String) :
    FileTree.entry? { t with entries := t.entries.erase k } goal ≠ some .directory := by
  have hne := ne_nil_of_not_directory hgoal
  rw [entry?_eq_get? hne] at hgoal ⊢
  simp only [Table.get?_erase]
  split_ifs
  · exact nofun
  · exact hgoal

/-- A path leads to the file that is put where it leads. -/
theorem find_insert (hresolve : t.resolve path = .ok place)
    (hplace : t.entry? place ≠ some .directory) (e : FileEntry) :
    FileTree.find { t with entries := t.entries.insert (key place) e } path = .ok e := by
  have hkeeps := keepsDirectories_insert hplace e
  refine find_of_resolve (resolve_of_keepsDirectories hkeeps hresolve) ?_
  rw [entry?_eq_get? (ne_nil_of_not_directory hplace)]
  exact Table.get?_insert_self _ _ _

/-! ## Writing and renaming -/

theorem beginning_ne_directory (content : String) (taken : Nat) :
    FileEntry.beginning content taken ≠ .directory := by
  unfold FileEntry.beginning FileEntry.ofBytes
  split
  · exact nofun
  · exact nofun

/-- Where a file can stand, what comes of a write is for the disk alone. -/
theorem write_eq (hresolve : t.resolve path = .ok place)
    (hplace : t.entry? place ≠ some .directory) (content : String)
    (trouble : Option WriteTrouble) :
    t.write path content trouble =
      match trouble with
      | none => (.ok (), { t with entries := t.entries.insert (key place) (.text content) })
      | some (.unopened fault) => (.error fault, t)
      | some (.brokenOff taken fault) =>
        (.error fault,
          { t with entries := t.entries.insert (key place) (.beginning content taken) }) := by
  rcases trouble with _ | ⟨fault⟩ | ⟨taken, fault⟩ <;>
    simp only [write, hresolve, beq_iff_eq, hplace, if_false]

/-- A write leaves the tree as it is, or puts a file where its path leads. -/
theorem write_cases (t : FileTree) (path content : String) (trouble : Option WriteTrouble) :
    (∃ fault, t.write path content trouble = (.error fault, t)) ∨
      ∃ place outcome e, t.resolve path = .ok place ∧ t.entry? place ≠ some .directory ∧
        e ≠ .directory ∧ (outcome = .ok () → trouble = none ∧ e = .text content) ∧
        t.write path content trouble =
          (outcome, { t with entries := t.entries.insert (key place) e }) := by
  cases hresolve : t.resolve path with
  | error fault => exact .inl ⟨fault, by simp only [write, hresolve]⟩
  | ok place =>
    by_cases hplace : t.entry? place = some .directory
    · exact .inl ⟨.isDirectory, by simp only [write, hresolve, hplace, beq_self_eq_true, if_true]⟩
    · have hwrite := write_eq hresolve hplace content trouble
      rcases trouble with _ | ⟨fault⟩ | ⟨taken, fault⟩
      · exact .inr ⟨place, .ok (), .text content, rfl, hplace, nofun, fun _ => ⟨rfl, rfl⟩, hwrite⟩
      · exact .inl ⟨fault, hwrite⟩
      · exact .inr ⟨place, .error fault, .beginning content taken, rfl, hplace,
          beginning_ne_directory content taken, nofun, hwrite⟩

theorem write_eq_ok (h : t.write path content trouble = (.ok (), t')) :
    trouble = none ∧ ∃ place, t.resolve path = .ok place ∧ t.entry? place ≠ some .directory ∧
      t' = { t with entries := t.entries.insert (key place) (.text content) } := by
  rcases t.write_cases path content trouble with
    ⟨fault, hwrite⟩ | ⟨place, outcome, e, hresolve, hfile, -, hdone, hwrite⟩
  · nomatch hwrite.symm.trans h
  · cases hwrite.symm.trans h
    obtain ⟨hsound, rfl⟩ := hdone rfl
    exact ⟨hsound, place, hresolve, hfile, rfl⟩

/-- Without trouble a write that fails leaves all as it was. -/
theorem write_eq_error {fault : FileFault} (h : t.write path content = (.error fault, t')) :
    t' = t := by
  unfold write at h
  split at h
  · cases h
    rfl
  · split at h
    · cases h
      rfl
    · cases h

theorem keepsDirectories_write (h : t.write path content = (.ok (), t')) :
    t.KeepsDirectories t' := by
  obtain ⟨-, place, -, hfile, rfl⟩ := write_eq_ok h
  exact keepsDirectories_insert hfile _

/-- **What was written is found.** -/
theorem find_write (h : t.write path content trouble = (.ok (), t')) :
    t'.find path = .ok (.text content) := by
  obtain ⟨-, place, hresolve, hfile, rfl⟩ := write_eq_ok h
  exact find_insert hresolve hfile _

/-- **What was broken off is found**, too, wherever the text could have been written. -/
theorem find_write_brokenOff (h : t.write path content = (.ok (), t')) (taken : Nat)
    (fault : FileFault) :
    ∃ left, t.write path content (some (.brokenOff taken fault)) = (.error fault, left) ∧
      left.find path = .ok (.beginning content taken) := by
  obtain ⟨-, place, hresolve, hfile, -⟩ := write_eq_ok h
  exact ⟨_, write_eq hresolve hfile content _, find_insert hresolve hfile _⟩

theorem rename_eq_ok (h : t.rename source target halt = .ok t') :
    halt = none ∧ ∃ place goal e, t.resolve source = .ok place ∧ e ≠ .directory ∧
      t.entry? place = some e ∧ t.resolve target = .ok goal ∧ t.entry? goal ≠ some .directory ∧
      t' = { t with entries := (t.entries.erase (key place)).insert (key goal) e } := by
  obtain ⟨place, hresolve, hrest⟩ := Except.exists_of_bind h
  simp only at hrest
  split at hrest
  · cases hrest
  · cases hrest
  · rename_i e hfile hentry
    obtain ⟨goal, hgoal, hrest⟩ := Except.exists_of_bind hrest
    split at hrest
    · cases hrest
    · rename_i hnot
      cases halt with
      | some fault => cases hrest
      | none =>
        cases hrest
        exact ⟨rfl, place, goal, e, hresolve, hfile, hentry, hgoal, by simpa using hnot, rfl⟩

/-- **What was renamed is found under the new name.** -/
theorem find_rename (h : t.rename source target halt = .ok t') (hsource : t.find source = .ok e) :
    t'.find target = .ok e := by
  obtain ⟨-, place, goal, e', hresolve, hfile, hentry, hgoal, hfree, rfl⟩ := rename_eq_ok h
  cases hsource.symm.trans (find_of_resolve hresolve hentry)
  have hplace : t.entry? place ≠ some .directory := by
    rw [hentry]
    exact fun h => hfile (Option.some.inj h)
  have hgoalTaken := resolve_of_keepsDirectories (keepsDirectories_erase hplace) hgoal
  exact find_insert hgoalTaken (entry?_erase_ne_directory hfree (key place)) e

theorem read_of_find (h : t.find path = .ok (.text content)) : t.read path = .ok content := by
  rw [read, h]
  rfl

theorem readLetters_of_find (h : t.find path = .ok (.text content)) :
    t.readLetters path = .ok (Text.letters content) := by
  rw [readLetters, h]
  rfl

theorem isFile_of_find (h : t.find path = .ok (.text content)) : t.isFile path = true := by
  rw [isFile, h]
  rfl

/-- A directory can be listed. -/
theorem exists_list (h : t.isDirectory path = true) : ∃ names, t.list path = .ok names := by
  unfold isDirectory at h
  split at h
  · rename_i hfind
    obtain ⟨place, hresolve, hentry⟩ := exists_of_find hfind
    simp only [list, names, hresolve, Except.bind_of_ok, hentry]
    exact ⟨_, rfl⟩
  · cases h

end ThemedPages.FileTree
