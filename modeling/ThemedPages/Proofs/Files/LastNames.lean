import ThemedPages.Proofs.Files.Frame

/-!
# Last names

The text of a path says how the place is named that it leads to, as long as that is no directory:
one who stops at a void part or goes back is in a directory that is there. For the latter the
directories on the way have to be there, which is what a walk keeps (`Grounded`).

**Theorem (`exists_last_of_resolve`).** A path that leads to a file, or to where one may be put,
ends with the name of that place.

**Theorem (`getLast?_pieces_withFileName`).** A path that is given a name ends with it.
-/

namespace ThemedPages

namespace Path

/-- What comes after the last separator is the last piece. -/
theorem getLast?_splitOn {c : Char} {last : List Char} (h : c ∉ last) (start : List Char) :
    ((start ++ c :: last).splitOn c).getLast? = some last := by
  rw [List.splitOn_append_cons_self, List.splitOn_eq_singleton h, List.getLast?_concat]

theorem getLast?_pieces {name : String} (h : '/' ∉ name.toList) (start : List Char) :
    (pieces (String.ofList (start ++ '/' :: name.toList))).getLast? = some name := by
  rw [pieces, String.toList_ofList, List.getLast?_map, getLast?_splitOn h, Option.map_some,
    String.ofList_toList]

/-- A name in a directory is the last part of its path. -/
theorem getLast?_pieces_join {name : String} (h : '/' ∉ name.toList) (directory : String) :
    (pieces (join directory name)).getLast? = some name := by
  unfold join
  split
  · rename_i hends
    rw [Bool.or_eq_true] at hends
    rcases hends with hempty | hslash
    · rw [String.isEmpty_iff.1 hempty, String.empty_append, pieces, List.splitOn_eq_singleton h]
      simp
    · obtain ⟨start, hstart⟩ := String.Slice.endsWith_string_iff.1 hslash
      rw [String.copy_toSlice] at hstart
      have htext : directory ++ name = String.ofList (start ++ '/' :: name.toList) := by
        apply String.toList_inj.1
        simp [← hstart]
      rw [htext, getLast?_pieces h]
  · have htext : directory ++ "/" ++ name =
        String.ofList (directory.toList ++ '/' :: name.toList) := by
      apply String.toList_inj.1
      simp
    rw [htext, getLast?_pieces h]

/-- **A path with a new last name.** -/
theorem getLast?_pieces_withFileName {name : String} (h : '/' ∉ name.toList) (path : String) :
    (pieces (withFileName path name)).getLast? = some name := by
  unfold withFileName
  split
  · exact getLast?_pieces_join h _
  · exact getLast?_pieces_join h _

/-- A last part that is a name is the name of the file. -/
theorem fileName?_of_getLast? {path name : String} (h : (pieces path).getLast? = some name)
    (hvoid : isVoid name = false) (hback : name ≠ "..") : fileName? path = some name := by
  obtain ⟨start, hpieces⟩ := List.getLast?_eq_some_iff.1 h
  have htrim : trimVoid (pieces path) = start ++ [name] := by
    rw [hpieces]
    cases start with
    | nil => rfl
    | cons first rest =>
      rw [List.cons_append, trimVoid, List.reverse_append, List.reverse_singleton,
        List.singleton_append, List.dropWhile_cons_of_neg (by simp [hvoid]), List.reverse_cons,
        List.reverse_reverse]
  rw [fileName?, htrim, List.getLast?_concat, Option.filter_some, hvoid]
  simp [hback]

/-- The name of a file is one of the parts of its path. -/
theorem mem_pieces_of_fileName? {path name : String} (h : fileName? path = some name) :
    name ∈ pieces path := by
  rw [fileName?, Option.filter_eq_some_iff] at h
  have hmem := List.mem_of_getLast? h.1
  unfold trimVoid at hmem
  split at hmem
  · cases hmem
  · rename_i first rest hpieces
    rw [hpieces]
    rcases List.mem_cons.1 hmem with hfirst | hrest
    · exact hfirst ▸ List.mem_cons_self
    · have hkept := List.dropWhile_sublist _ |>.subset (List.mem_reverse.1 hrest)
      exact List.mem_cons_of_mem _ (List.mem_reverse.1 hkept)

end Path

namespace FileTree

variable {t : FileTree} {path : String} {place p goal : List String}

/-- All directories on the way to a place are there. -/
def Grounded (t : FileTree) (place : List String) : Prop :=
  ∀ n < place.length, t.entry? (place.take n) = some .directory

theorem Grounded.dropLast (h : t.Grounded p) : t.Grounded p.dropLast := by
  intro n hn
  rw [List.length_dropLast] at hn
  rw [List.dropLast_eq_take, List.take_take, Nat.min_eq_left (Nat.le_of_lt hn)]
  exact h n (by omega)

/-- Going back leads to a directory. -/
theorem Grounded.directory (h : t.Grounded p) : t.entry? p.dropLast = some .directory := by
  by_cases hnil : p = []
  · rw [hnil]
    rfl
  · rw [List.dropLast_eq_take]
    exact h _ (Nat.sub_lt (List.length_pos_iff.2 hnil) Nat.one_pos)

theorem Grounded.concat (h : t.Grounded p) (hp : t.entry? p = some .directory) (name : String) :
    t.Grounded (p ++ [name]) := by
  intro n hn
  rw [List.length_append, List.length_singleton, Nat.lt_succ_iff] at hn
  rw [List.take_append_of_le_length hn]
  by_cases hlast : n = p.length
  · rw [hlast, List.take_length, hp]
  · exact h n (by omega)

/-- A walk that does not end in a directory ends with a name. -/
theorem exists_last_of_walk {pieces : List String} (hp : t.Grounded p)
    (h : t.walk p pieces = .ok goal) (hgoal : t.entry? goal ≠ some .directory) :
    (pieces = [] ∧ goal = p) ∨
      ∃ name, pieces.getLast? = some name ∧ goal.getLast? = some name ∧
        Path.isVoid name = false ∧ name ≠ ".." := by
  induction pieces generalizing p with
  | nil =>
    cases h
    exact .inl ⟨rfl, rfl⟩
  | cons piece rest ih =>
    right
    have hrest : ∀ {name : String}, rest.getLast? = some name →
        (piece :: rest).getLast? = some name := by
      intro name hname
      rw [List.getLast?_cons, hname]
      rfl
    rw [walk] at h
    split at h
    · cases h
    · rename_i hdirectory
      split_ifs at h with hvoid hback
      · rcases ih hp h with ⟨-, rfl⟩ | ⟨name, hlast, hname⟩
        · exact absurd hdirectory hgoal
        · exact ⟨name, hrest hlast, hname⟩
      · rcases ih hp.dropLast h with ⟨-, rfl⟩ | ⟨name, hlast, hname⟩
        · exact absurd hp.directory hgoal
        · exact ⟨name, hrest hlast, hname⟩
      · rcases ih (hp.concat hdirectory piece) h with ⟨rfl, rfl⟩ | ⟨name, hlast, hname⟩
        · exact ⟨piece, rfl, List.getLast?_concat, by simpa using hvoid, by simpa using hback⟩
        · exact ⟨name, hrest hlast, hname⟩
    · cases h

/-- **Where a file is or may be put.** -/
theorem exists_last_of_resolve (h : t.resolve path = .ok place)
    (hplace : t.entry? place ≠ some .directory) :
    ∃ name, (Path.pieces path).getLast? = some name ∧ place.getLast? = some name ∧
      Path.fileName? path = some name := by
  unfold resolve at h
  split_ifs at h
  have hstart : t.Grounded [] := fun n hn => absurd hn (Nat.not_lt_zero n)
  rcases exists_last_of_walk hstart h hplace with ⟨-, rfl⟩ | ⟨name, hlast, hname, hvoid, hback⟩
  · exact absurd rfl hplace
  · exact ⟨name, hlast, hname, Path.fileName?_of_getLast? hlast hvoid hback⟩

end FileTree

end ThemedPages
