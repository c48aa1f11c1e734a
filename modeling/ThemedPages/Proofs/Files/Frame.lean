import ThemedPages.Proofs.Files.Written

/-!
# What writing leaves alone

A file is written under the text of the place that its path leads to. Names in a place have no
slash, so two places with one text are the same. A file that was there before stays a file, so that
paths go on to lead where they led.

**Theorem (`sameBut_write`).** When a file that is there is written, no path leads anywhere else, no
directory gets or loses a name, and only paths that lead to the file find anything new.
-/

namespace ThemedPages

/-- A row that takes the place of another one keeps the keys. -/
theorem Table.keys_insert_of_contains {α : Type} {t : Table α} {k : String}
    (h : t.contains k = true) (x : α) : (t.insert k x).keys = t.keys := by
  have hrows : (t.insert k x).map (fun _ => ()) = t.map fun _ => () := by
    apply Table.ext_get?
    intro q
    rw [Table.get?_map, Table.get?_map, Table.get?_insert]
    by_cases hq : q = k
    · obtain ⟨y, hy⟩ := (Table.contains_iff t k).1 h
      rw [if_pos hq, hq, hy]
      rfl
    · rw [if_neg hq]
  have hkeys := congrArg Table.keys hrows
  simpa [Table.keys, Table.map, Function.comp_def] using hkeys

/-! ## Places -/

/-- A place of which no name has a slash. -/
def SlashFree (place : List String) : Prop := ∀ name ∈ place, '/' ∉ name.toList

theorem not_mem_of_mem_splitOn {c : Char} {cs part : List Char} (h : part ∈ cs.splitOn c) :
    c ∉ part := by
  induction cs generalizing part with
  | nil =>
    rw [List.splitOn_nil, List.mem_singleton] at h
    simp [h]
  | cons d cs ih =>
    rw [List.splitOn_cons_eq_if_modifyHead] at h
    by_cases hd : (d == c) = true
    · rw [if_pos hd] at h
      rcases List.mem_cons.1 h with h | h
      · simp [h]
      · exact ih h
    · rw [if_neg hd] at h
      cases hparts : cs.splitOn c with
      | nil => exact absurd hparts (List.splitOn_ne_nil c cs)
      | cons first rest =>
        rw [hparts] at h ih
        rw [List.modifyHead_cons] at h
        rcases List.mem_cons.1 h with h | h
        · rw [h, List.mem_cons, not_or]
          exact ⟨fun heq => hd (by simp [heq]), ih List.mem_cons_self⟩
        · exact ih (List.mem_cons_of_mem _ h)

theorem slashFree_pieces (path : String) : SlashFree (Path.pieces path) := by
  intro name hname
  obtain ⟨part, hpart, rfl⟩ := List.mem_map.1 hname
  rw [String.toList_ofList]
  exact not_mem_of_mem_splitOn hpart

/-- **A place is known by its text.** -/
theorem FileTree.key_injective {p q : List String} (hp : SlashFree p) (hq : SlashFree q)
    (hpne : p ≠ []) (hqne : q ≠ []) (h : key p = key q) : p = q := by
  have hsplit : ∀ place : List String, SlashFree place → place ≠ [] →
      (key place).toList.splitOn '/' = place.map String.toList := by
    intro place hplace hne
    rw [key, String.toList_intercalate]
    refine List.splitOn_intercalate '/' ?_ (by simpa using hne)
    intro part hpart
    obtain ⟨name, hname, rfl⟩ := List.mem_map.1 hpart
    exact hplace name hname
  have hmap := hsplit p hp hpne
  rw [h, hsplit q hq hqne] at hmap
  exact ((List.map_inj_right fun _ _ => String.toList_inj.1).1 hmap).symm

namespace FileTree

variable {t t' : FileTree} {path content : String} {place p q : List String} {e : FileEntry}

theorem slashFree_walk {pieces : List String} (hpieces : SlashFree pieces) (hp : SlashFree p)
    (h : t.walk p pieces = .ok q) : SlashFree q := by
  induction pieces generalizing p with
  | nil =>
    cases h
    exact hp
  | cons piece rest ih =>
    have hpiece := hpieces piece List.mem_cons_self
    have hrest : SlashFree rest := fun name hname => hpieces name (List.mem_cons_of_mem _ hname)
    rw [walk] at h
    split at h
    · cases h
    · split_ifs at h
      · exact ih hrest hp h
      · exact ih hrest (fun name hname => hp name (List.dropLast_subset _ hname)) h
      · refine ih hrest ?_ h
        intro name hname
        rcases List.mem_append.1 hname with hname | hname
        · exact hp name hname
        · rw [List.mem_singleton.1 hname]
          exact hpiece
    · cases h

/-- No name on the way to what a path leads to has a slash. -/
theorem slashFree_resolve (h : t.resolve path = .ok place) : SlashFree place := by
  unfold resolve at h
  split_ifs at h
  exact slashFree_walk (slashFree_pieces path) (by simp [SlashFree]) h

/-! ## Trees of one shape -/

/-- Two trees have the same directories, and files at the same places. -/
def SameShape (t t' : FileTree) : Prop :=
  ∀ p, (t'.entry? p).map FileEntry.isFile = (t.entry? p).map FileEntry.isFile

theorem SameShape.cases (h : t.SameShape t') (p : List String) :
    t.entry? p = none ∧ t'.entry? p = none ∨
      t.entry? p = some .directory ∧ t'.entry? p = some .directory ∨
      ∃ e e', t.entry? p = some e ∧ e ≠ .directory ∧ t'.entry? p = some e' ∧ e' ≠ .directory := by
  have hentry := h p
  cases ht : t.entry? p with
  | none =>
    rw [ht] at hentry
    exact .inl ⟨rfl, Option.map_eq_none_iff.1 hentry⟩
  | some e =>
    rw [ht] at hentry
    obtain ⟨e', ht', hfile⟩ := Option.map_eq_some_iff.1 hentry
    cases e <;> cases e' <;> simp_all [FileEntry.isFile]

/-- A place is followed by way of directories, so trees of one shape lead to the same. -/
theorem SameShape.walk (h : t.SameShape t') (pieces : List String) :
    t'.walk p pieces = t.walk p pieces := by
  induction pieces generalizing p with
  | nil => rfl
  | cons piece rest ih =>
    rw [FileTree.walk, FileTree.walk]
    rcases h.cases p with ⟨ht, ht'⟩ | ⟨ht, ht'⟩ | ⟨e, e', ht, he, ht', he'⟩
    · rw [ht, ht']
    · simp only [ht, ht', ih]
    · rw [ht, ht']
      cases e <;> cases e' <;> first | rfl | exact absurd rfl he | exact absurd rfl he'

theorem SameShape.resolve (h : t.SameShape t') (path : String) :
    t'.resolve path = t.resolve path := by
  unfold FileTree.resolve
  rw [h.walk]

theorem sameShape_insert (hplace : t.entry? place = some e) (hfile : e.isFile = true)
    (content : String) :
    t.SameShape { t with entries := t.entries.insert (key place) (.text content) } := by
  have hne : place ≠ [] := by
    refine ne_nil_of_not_directory (t := t) ?_
    rw [hplace]
    intro heq
    cases heq
    nomatch hfile
  intro p
  by_cases hp : p = []
  · rw [hp]
    rfl
  · rw [entry?_eq_get? hp, entry?_eq_get? hp]
    dsimp only
    rw [Table.get?_insert]
    by_cases hkey : key p = key place
    · rw [if_pos hkey, hkey, ← entry?_eq_get? hne, hplace, Option.map_some, Option.map_some, hfile]
      rfl
    · rw [if_neg hkey]

theorem SameShape.names (h : t.SameShape t') (hkeys : t'.entries.keys = t.entries.keys)
    (hbinary : t'.binaryNames = t.binaryNames) (path : String) : t'.names path = t.names path := by
  unfold FileTree.names
  rw [h.resolve, hkeys, hbinary]
  cases t.resolve path with
  | error fault => rfl
  | ok q =>
    rw [Except.bind_of_ok, Except.bind_of_ok]
    rcases h.cases q with ⟨ht, ht'⟩ | ⟨ht, ht'⟩ | ⟨e, e', ht, he, ht', he'⟩
    · rw [ht, ht']
    · rw [ht, ht']
    · rw [ht, ht']
      cases e <;> cases e' <;> first | rfl | exact absurd rfl he | exact absurd rfl he'

/-! ## Trees that differ in one file -/

/-- Two trees are the same but for what is in the file that a path leads to. -/
structure SameBut (path : String) (t t' : FileTree) : Prop where
  resolve : ∀ p, t'.resolve p = t.resolve p
  names : ∀ p, t'.names p = t.names p
  find : ∀ p, t.resolve p ≠ t.resolve path → t'.find p = t.find p

theorem exists_entry_of_isFile (hfile : t.isFile path = true)
    (hresolve : t.resolve path = .ok place) : ∃ e, t.entry? place = some e ∧ e.isFile = true := by
  unfold isFile at hfile
  split at hfile
  · rename_i e hfind
    obtain ⟨place', hresolve', hentry⟩ := exists_of_find hfind
    cases hresolve.symm.trans hresolve'
    exact ⟨e, hentry, hfile⟩
  · nomatch hfile

theorem entry?_insert_of_ne (hp : SlashFree p) (hplace : SlashFree place) (hne : place ≠ [])
    (hother : p ≠ place) (e : FileEntry) :
    entry? { t with entries := t.entries.insert (key place) e } p = t.entry? p := by
  by_cases hnil : p = []
  · rw [hnil]
    rfl
  · rw [entry?_eq_get? hnil, entry?_eq_get? hnil]
    dsimp only
    rw [Table.get?_insert, if_neg]
    intro hkey
    exact hother (key_injective hp hplace hnil hne hkey)

/-- **Writing a file** that is there. -/
theorem sameBut_write (hwrite : t.write path content = (.ok (), t')) (hfile : t.isFile path = true) :
    t.SameBut path t' := by
  obtain ⟨-, place, hresolve, hplace, rfl⟩ := write_eq_ok hwrite
  have hne := ne_nil_of_not_directory hplace
  obtain ⟨e, hentry, hisFile⟩ := exists_entry_of_isFile hfile hresolve
  have hshape := sameShape_insert hentry hisFile content
  have hthere : t.entries.contains (key place) = true := by
    rw [Table.contains_iff]
    exact ⟨e, by rw [← entry?_eq_get? hne, hentry]⟩
  refine ⟨hshape.resolve, hshape.names (Table.keys_insert_of_contains hthere _) rfl, ?_⟩
  intro p hp
  unfold find
  rw [hshape.resolve]
  cases hq : t.resolve p with
  | error fault => rfl
  | ok q =>
    have hother : q ≠ place := by
      intro heq
      rw [hq, hresolve, heq] at hp
      exact hp rfl
    rw [Except.bind_of_ok, Except.bind_of_ok,
      entry?_insert_of_ne (slashFree_resolve hq) (slashFree_resolve hresolve) hne hother]

end FileTree

end ThemedPages
