import ThemedPages.Route.Discovery

/-!
# What routes come of discovery and of checks

Both go through a list of ids and change one route at a time. A check of a route depends on what is
never changed in it, so that checking it twice does no more than checking it once; and a page is
registered under its own id, so that only the first page with an id counts.

**Theorems.**

- `get?_revalidateAll`: after all routes are checked each is as its own check leaves it.
- `get?_addPages`, `mem_addPages`: pages that were no routes become routes; nothing else changes.
- `isSome_discover`, `mem_newIds`: discovery adds just the pages of a directory.
-/

namespace ThemedPages

variable {files : FileTree} {components : ComponentRegistry} {directory : String} {now : Instant}

/-! ## Checks -/

theorem Report.check_eq_ok_iff (r : Report) : r.check = .ok () ↔ r.issues = [] := by
  unfold check isValid
  cases r.issues <;> simp

/-- **A descriptor loads** if it can be read and breaks no rule. -/
theorem Descriptor.load_eq_ok_iff (files : FileTree) (path : String) (d : Descriptor) :
    Descriptor.load files path = .ok d ↔
      Descriptor.ofFile files path = .ok d ∧ d.validate.issues = [] := by
  constructor
  · intro h
    obtain ⟨_, hread, h⟩ := Except.exists_of_bind h
    obtain ⟨_, hcheck, h⟩ := Except.exists_of_bind h
    cases h
    exact ⟨hread, d.validate.check_eq_ok_iff.1 hcheck⟩
  · rintro ⟨hread, hissues⟩
    rw [load, hread, Except.bind_of_ok, d.validate.check_eq_ok_iff.2 hissues]
    rfl

/-- A descriptor can be read, breaks no rule, and names only component types of its page. -/
def Sound (files : FileTree) (components : ComponentRegistry) (page path : String) : Prop :=
  ∃ d, Descriptor.ofFile files path = .ok d ∧ d.validate.issues = [] ∧
    ∀ c ∈ d.componentList, components.contains page c.typeName = true

theorem isSound_iff (page path : String) :
    isSound files components page path = true ↔ Sound files components page path := by
  unfold isSound Sound
  cases hload : Descriptor.load files path with
  | error failure =>
    refine iff_of_false Bool.false_ne_true ?_
    rintro ⟨d, hread, hvalid, -⟩
    rw [(Descriptor.load_eq_ok_iff files path d).2 ⟨hread, hvalid⟩] at hload
    nomatch hload
  | ok d =>
    obtain ⟨hread, hvalid⟩ := (Descriptor.load_eq_ok_iff files path d).1 hload
    rw [List.all_eq_true]
    constructor
    · exact fun hall => ⟨d, hread, hvalid, hall⟩
    · rintro ⟨d', hread', -, hall⟩
      cases hread.symm.trans hread'
      exact hall

/-- A route after a check. -/
def Route.checked (route : Route) (files : FileTree) (components : ComponentRegistry)
    (now : Instant) (id : String) : Route :=
  { route with
    isValid := isSound files components id route.descriptorPath, lastChecked := some now }

namespace RouteRegistry

@[simp] theorem get?_insert (r : RouteRegistry) (id : String) (route : Route) (q : String) :
    get? ⟨r.routes.insert id route⟩ q = if q = id then some route else r.get? q :=
  Table.get?_insert r.routes id route q

theorem get?_recordCheck (r : RouteRegistry) (id : String) (valid : Bool) (now : Instant)
    (q : String) :
    (r.recordCheck id valid now).get? q =
      if q = id then
        (r.get? q).map fun route => { route with isValid := valid, lastChecked := some now }
      else r.get? q := by
  unfold recordCheck
  by_cases hq : q = id
  · subst hq
    cases hroute : r.get? q <;> simp [hroute]
  · cases r.get? id <;> simp [hq]

theorem get?_revalidate (r : RouteRegistry) (id q : String) :
    (r.revalidate files components now id).2.get? q =
      if q = id then (r.get? q).map (·.checked files components now q) else r.get? q := by
  unfold revalidate
  by_cases hq : q = id
  · subst hq
    cases hroute : r.get? q <;> simp [hroute, get?_recordCheck, Route.checked]
  · cases r.get? id <;> simp [hq, get?_recordCheck]

/-- A route is checked if it is among those to check; checking it again finds the same. -/
theorem get?_revalidateEach (ids : List String) (r : RouteRegistry) (q : String) :
    (revalidateEach files components now ids r).2.get? q =
      if q ∈ ids then (r.get? q).map (·.checked files components now q) else r.get? q := by
  induction ids generalizing r with
  | nil => simp [revalidateEach]
  | cons id ids ih =>
    rw [revalidateEach]
    dsimp only
    rw [ih, get?_revalidate]
    by_cases hq : q = id
    · subst hq
      cases r.get? q with
      | none => simp
      | some route => simp [Route.checked]
    · simp [hq]

/-- **Checking all routes.** -/
theorem get?_revalidateAll (r : RouteRegistry) (q : String) :
    (r.revalidateAll files components now).2.get? q =
      (r.get? q).map (·.checked files components now q) := by
  rw [revalidateAll, get?_revalidateEach]
  split
  · rfl
  · next habsent =>
    have hnone : r.get? q = none := by
      rw [Table.mem_keys_iff, Table.contains, Bool.not_eq_true, Option.isSome_eq_false_iff,
        Option.isNone_iff_eq_none] at habsent
      exact habsent
    rw [hnone, Option.map_none]

end RouteRegistry

/-! ## Discovery -/

/-- The path of the descriptor of a page. -/
def descriptorPath (directory id : String) : String :=
  Path.join (Path.join directory id) descriptorName

namespace RouteRegistry

/-- The route that a new page becomes. -/
def discovered (files : FileTree) (directory : String) (now : Instant) (id : String) (rank : Nat) :
    Route :=
  let path := descriptorPath directory id
  let d? := Descriptor.ofFile files path
  { id, info := discoveredInfo id rank d?, descriptorPath := path
    componentPath := some (Path.join directory id)
    isValid := d?.isOk, lastChecked := if d?.isOk then none else some now }

theorem addPage_of_some {r : RouteRegistry} {id : String} {route : Route}
    (h : r.get? id = some route) (rank : Nat) :
    r.addPage files directory now id rank = none := by
  rw [addPage, h, Option.isSome_some, if_pos rfl]

theorem addPage_of_new {r : RouteRegistry} {id : String} (h : r.get? id = none) (rank : Nat) :
    r.addPage files directory now id rank =
      some ⟨r.routes.insert id (discovered files directory now id rank)⟩ := by
  have hnew : r.routes.contains id = false := by
    rw [Table.contains, ← get?, h, Option.isSome_none]
  unfold addPage register discovered
  rw [h, Option.isSome_none, if_neg Bool.false_ne_true]
  dsimp only
  rw [hnew, if_neg Bool.false_ne_true, ← descriptorPath]
  dsimp only
  cases (Descriptor.ofFile files (descriptorPath directory id)).isOk with
  | true => rfl
  | false => simp [recordCheck, get?, Table.insert_insert]

/-- Pages that are no routes become routes, the first of those with one id. -/
theorem get?_addPages (pages : List (String × Nat)) (r : RouteRegistry) (q : String) :
    (addPages files directory now pages r).2.get? q = (r.get? q).or
      ((pages.find? fun p => p.1 == q).map fun p => discovered files directory now p.1 p.2) := by
  induction pages generalizing r with
  | nil => simp [addPages]
  | cons page pages ih =>
    obtain ⟨id, rank⟩ := page
    rw [addPages]
    cases hroute : r.get? id with
    | some route =>
      rw [addPage_of_some hroute]
      dsimp only
      rw [ih]
      by_cases hq : id = q
      · subst hq
        simp [hroute]
      · simp [hq]
    | none =>
      rw [addPage_of_new hroute]
      dsimp only
      rw [ih]
      by_cases hq : id = q
      · subst hq
        simp [hroute]
      · simp [hq, Ne.symm hq]

theorem mem_addPages (pages : List (String × Nat)) (r : RouteRegistry) (q : String) :
    q ∈ (addPages files directory now pages r).1 ↔ r.get? q = none ∧ q ∈ pages.map Prod.fst := by
  induction pages generalizing r with
  | nil => simp [addPages]
  | cons page pages ih =>
    obtain ⟨id, rank⟩ := page
    rw [addPages]
    cases hroute : r.get? id with
    | some route =>
      rw [addPage_of_some hroute]
      dsimp only
      rw [ih]
      by_cases hq : q = id
      · subst hq
        simp [hroute]
      · simp [hq]
    | none =>
      rw [addPage_of_new hroute]
      dsimp only
      rw [List.mem_cons, ih]
      by_cases hq : q = id
      · subst hq
        simp [hroute]
      · simp [hq]

end RouteRegistry

/-- A text that names an entry of a directory, in which there is a descriptor. -/
def IsPage (files : FileTree) (directory id : String) : Prop :=
  ∃ names, files.names directory = .ok names ∧ .text id ∈ names ∧
    files.exists? (descriptorPath directory id) = true

instance (files : FileTree) (directory id : String) : Decidable (IsPage files directory id) :=
  match hnames : files.names directory with
  | .error _ => isFalse fun ⟨_, hlisted, _⟩ => nomatch hnames.symm.trans hlisted
  | .ok names =>
    decidable_of_iff (.text id ∈ names ∧ files.exists? (descriptorPath directory id) = true)
      ⟨fun h => ⟨names, hnames, h⟩, fun ⟨_, hlisted, h⟩ => by
        cases hnames.symm.trans hlisted
        exact h⟩

/-- What is listed are the names that are text. -/
theorem FileTree.mem_list {names : List EntryName} (listed : files.names directory = .ok names) :
    ∃ texts, files.list directory = .ok texts ∧ ∀ id, id ∈ texts ↔ .text id ∈ names := by
  refine ⟨names.filterMap EntryName.text?, ?_, fun id => ?_⟩
  · rw [list, listed, Except.bind_of_ok]
    rfl
  · rw [List.mem_filterMap]
    constructor
    · rintro ⟨name, hmem, hname⟩
      cases name with
      | text name => exact Option.some.inj hname ▸ hmem
      | binary bytes => nomatch hname
    · exact fun hmem => ⟨.text id, hmem, rfl⟩

theorem isPage_iff_of_list {texts : List String} (listed : files.list directory = .ok texts)
    (id : String) : IsPage files directory id ↔ id ∈ pageNames files directory texts := by
  rw [pageNames, List.mem_mergeSort, List.mem_filter]
  cases hnames : files.names directory with
  | error fault =>
    rw [FileTree.list, hnames] at listed
    nomatch listed
  | ok names =>
    obtain ⟨texts', hlist, hmem⟩ := FileTree.mem_list hnames
    cases hlist.symm.trans listed
    rw [hmem]
    constructor
    · rintro ⟨names', hnames', hname, hthere⟩
      cases hnames.symm.trans hnames'
      exact ⟨hname, hthere⟩
    · rintro ⟨hname, hthere⟩
      exact ⟨names, hnames, hname, hthere⟩

theorem not_isPage_of_list {fault : FileFault} (unlisted : files.list directory = .error fault)
    (id : String) : ¬IsPage files directory id := by
  rintro ⟨names, hnames, -⟩
  rw [FileTree.list, hnames] at unlisted
  nomatch unlisted

namespace RouteRegistry

variable (r : RouteRegistry) (q : String)

/-- A route stays as it is; a page that was no route becomes one. -/
theorem get?_discover :
    (r.discover files directory now).2.get? q = r.get? q ∨
      r.get? q = none ∧ IsPage files directory q ∧ ∃ rank,
        (r.discover files directory now).2.get? q =
          some (discovered files directory now q rank) := by
  unfold discover discoverListed
  cases hlist : files.list directory with
  | error fault => exact .inl rfl
  | ok texts =>
    dsimp only
    rw [get?_addPages]
    cases hroute : r.get? q with
    | some route => exact .inl rfl
    | none =>
      cases hfind : (pageNames files directory texts).zipIdx.find? fun p => p.1 == q with
      | none => exact .inl rfl
      | some page =>
        have hid : page.1 = q := by simpa using List.find?_some hfind
        have hmem := List.mem_map_of_mem (f := Prod.fst) (List.mem_of_find?_eq_some hfind)
        rw [List.zipIdx_map_fst, hid] at hmem
        exact .inr ⟨rfl, (isPage_iff_of_list hlist q).2 hmem, page.2, by rw [← hid]; rfl⟩

/-- **The routes after discovery.** -/
theorem isSome_discover :
    ((r.discover files directory now).2.get? q).isSome ↔
      (r.get? q).isSome ∨ IsPage files directory q := by
  unfold discover discoverListed
  cases hlist : files.list directory with
  | error fault => exact (or_iff_left (not_isPage_of_list hlist q)).symm
  | ok texts =>
    dsimp only
    have hranked : q ∈ pageNames files directory texts ↔
        ∃ p ∈ (pageNames files directory texts).zipIdx, p.1 = q := by
      rw [← List.mem_map, List.zipIdx_map_fst]
    rw [get?_addPages, isPage_iff_of_list hlist, hranked, Option.isSome_or, Bool.or_eq_true,
      Option.isSome_map, List.find?_isSome]
    simp only [beq_iff_eq]

/-- The ids that discovery gives. -/
def newIds (files : FileTree) (directory : String) (now : Instant) (r : RouteRegistry) :
    List String := (r.discover files directory now).1.toOption.getD []

/-- **The new routes.** -/
theorem mem_newIds :
    q ∈ newIds files directory now r ↔ r.get? q = none ∧ IsPage files directory q := by
  unfold newIds discover discoverListed
  cases hlist : files.list directory with
  | error fault =>
    refine iff_of_false List.not_mem_nil ?_
    exact fun h => not_isPage_of_list hlist q h.2
  | ok texts =>
    change q ∈ (addPages files directory now (pageNames files directory texts).zipIdx r).1 ↔ _
    rw [mem_addPages, List.zipIdx_map_fst, isPage_iff_of_list hlist]

end RouteRegistry

end ThemedPages
