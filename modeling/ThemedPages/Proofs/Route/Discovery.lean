import Mathlib.Algebra.Group.Nat.Defs
import Mathlib.Data.List.Nodup
import ThemedPages.Proofs.Route.Registry

/-!
# Discovery in any order

A directory is listed in no particular order. Discovery sorts the pages by name before it numbers
them, so the order of the listing is lost before anything depends on it; and what is a route already
is left alone, so a page counts once, however often it is found.

**Theorem (`discover_anyOrder`).** From every listing of a directory discovery makes one registry
and gives one list of ids, up to the times of checks. The ids are new and ascend, each route has the
rank of its page among all pages of the directory, and discovering again changes nothing.

The rank of a page counts the pages before it in the sorted list (`find?_zipIdx`), those that are
routes already among them. The registry at two times is compared page by page (`addPages_later`).
-/

namespace ThemedPages

variable {files : FileTree} {directory : String} {now later : Instant} {ids : List String}
  {names listed : List EntryName}

/-- The rank of an id among the pages of a directory: how many of them come before it. -/
def pageRank (files : FileTree) (directory : String) (names : List EntryName) (id : String) : Nat :=
  (names.filterMap EntryName.text?).countP fun other =>
    files.exists? (descriptorPath directory other) && decide (other < id)

/-- A route without the time of its last check. -/
def Route.undated (route : Route) : Route :=
  { route with lastChecked := route.lastChecked.map fun _ => ⟨0, 0⟩ }

namespace RouteRegistry

/-- Two registries hold the same routes, but for the times of their checks. -/
def SameButTimes (r r' : RouteRegistry) : Prop :=
  ∀ id, (r.get? id).map Route.undated = (r'.get? id).map Route.undated

/-- From a registry, the pages of a directory, which holds some names, come to be routes. -/
structure Discovers (r : RouteRegistry) (files : FileTree) (directory : String)
    (names : List EntryName) (ids : List String) (found : RouteRegistry) : Prop where
  ascending : ids.Pairwise (· < ·)
  new : ∀ id, id ∈ ids ↔ r.get? id = none ∧ IsPage files directory id
  kept : ∀ id route, r.get? id = some route → found.get? id = some route
  only : ∀ id route, found.get? id = some route → r.get? id = some route ∨ id ∈ ids
  ranked : ∀ id ∈ ids, ∃ route, found.get? id = some route ∧ route.id = id ∧
    route.info.order = Int64.ofNat (pageRank files directory names id) ∧
    (names.length < 2 ^ 63 → route.info.order.toInt = pageRank files directory names id)

end RouteRegistry

/-! ## The order of a listing -/

theorem pairwise_pageNames (files : FileTree) (directory : String) (texts : List String) :
    (pageNames files directory texts).Pairwise (· ≤ ·) := by
  have htrans : ∀ a b c : String, decide (a ≤ b) = true → decide (b ≤ c) = true →
      decide (a ≤ c) = true := by
    intro a b c hab hbc
    exact decide_eq_true (String.le_trans (of_decide_eq_true hab) (of_decide_eq_true hbc))
  have htotal : ∀ a b : String, (decide (a ≤ b) || decide (b ≤ a)) = true := by
    intro a b
    rw [Bool.or_eq_true, decide_eq_true_eq, decide_eq_true_eq]
    exact String.le_total a b
  exact (List.pairwise_mergeSort htrans htotal _).imp of_decide_eq_true

/-- **Sorting loses the order of a listing.** -/
theorem pageNames_eq_of_perm {texts texts' : List String} (h : texts.Perm texts') :
    pageNames files directory texts = pageNames files directory texts' := by
  refine List.Perm.eq_of_pairwise ?_ (pairwise_pageNames files directory texts)
    (pairwise_pageNames files directory texts') ?_
  · intro a b _ _
    exact String.le_antisymm
  unfold pageNames
  exact (List.mergeSort_perm _ _).trans ((h.filter _).trans (List.mergeSort_perm _ _).symm)

theorem countP_pageNames (names : List EntryName) (id : String) :
    (pageNames files directory (names.filterMap EntryName.text?)).countP (fun other => other < id) =
      pageRank files directory names id := by
  rw [pageNames, (List.mergeSort_perm _ _).countP_eq, List.countP_filter, pageRank]
  refine List.countP_congr fun other _ => ?_
  rw [Bool.and_comm]
  rfl

theorem pageRank_le_length (names : List EntryName) (id : String) :
    pageRank files directory names id ≤ names.length :=
  Nat.le_trans List.countP_le_length (List.length_filterMap_le ..)

/-- In a sorted list that is numbered, the number of a text is how many come before it. -/
theorem find?_zipIdx {texts : List String} (hsorted : texts.Pairwise (· ≤ ·)) (first : Nat)
    {id : String} (hmem : id ∈ texts) :
    (texts.zipIdx first).find? (fun p => p.1 == id) =
      some (id, first + texts.countP fun other => other < id) := by
  induction texts generalizing first with
  | nil => nomatch hmem
  | cons head rest ih =>
    obtain ⟨hhead, hrest⟩ := List.pairwise_cons.1 hsorted
    rw [List.zipIdx_cons]
    by_cases heq : head = id
    · -- No text of a sorted list comes before its first.
      subst heq
      have hcount : (head :: rest).countP (fun other => other < head) = 0 := by
        rw [List.countP_eq_zero]
        intro other hother
        rw [decide_eq_true_eq, String.not_lt]
        rcases List.mem_cons.1 hother with rfl | hother
        · exact String.le_refl other
        · exact hhead other hother
      rw [List.find?_cons_of_pos (by exact beq_self_eq_true head), hcount, Nat.add_zero]
    · have hmem : id ∈ rest := (List.mem_cons.1 hmem).resolve_left (Ne.symm heq)
      have hlt : head < id := Std.lt_of_le_of_ne (hhead id hmem) heq
      rw [List.find?_cons_of_neg (by simpa using heq), ih hrest (first + 1) hmem,
        List.countP_cons_of_pos (by exact decide_eq_true hlt), Nat.add_assoc, Nat.add_comm 1]

namespace RouteRegistry

variable {r r' : RouteRegistry} {pages : List (String × Nat)}

/-! ## Registering pages -/

/-- **The new ids keep the order of the pages.** -/
theorem sublist_addPages (files : FileTree) (directory : String) (now : Instant)
    (pages : List (String × Nat)) (r : RouteRegistry) :
    (addPages files directory now pages r).1.Sublist (pages.map Prod.fst) := by
  induction pages generalizing r with
  | nil => exact List.Sublist.slnil
  | cons page pages ih =>
    obtain ⟨id, rank⟩ := page
    rw [addPages]
    cases hroute : r.get? id with
    | some route =>
      rw [addPage_of_some hroute]
      exact (ih r).cons _
    | none =>
      rw [addPage_of_new hroute]
      exact (ih _).cons_cons _

/-- A page is registered once: after that it is a route. -/
theorem nodup_addPages (pages : List (String × Nat)) (r : RouteRegistry) :
    (addPages files directory now pages r).1.Nodup := by
  induction pages generalizing r with
  | nil => exact List.nodup_nil
  | cons page pages ih =>
    obtain ⟨id, rank⟩ := page
    rw [addPages]
    cases hroute : r.get? id with
    | some route =>
      rw [addPage_of_some hroute]
      exact ih r
    | none =>
      rw [addPage_of_new hroute]
      refine List.nodup_cons.2 ⟨fun hmem => ?_, ih _⟩
      have hnone := ((mem_addPages _ _ _).1 hmem).1
      rw [get?_insert, if_pos rfl] at hnone
      exact Option.some_ne_none _ hnone

theorem pairwise_addPages (hsorted : (pages.map Prod.fst).Pairwise (· ≤ ·)) (r : RouteRegistry) :
    (addPages files directory now pages r).1.Pairwise (· < ·) := by
  have hle := hsorted.sublist (sublist_addPages files directory now pages r)
  exact hle.imp₂ (fun a b => Std.lt_of_le_of_ne) (nodup_addPages pages r)

/-- **Pages that are routes all are left alone.** -/
theorem addPages_of_known (h : ∀ p ∈ pages, (r.get? p.1).isSome) :
    addPages files directory now pages r = ([], r) := by
  induction pages with
  | nil => rfl
  | cons page pages ih =>
    obtain ⟨route, hroute⟩ := Option.isSome_iff_exists.1 (h page (List.mem_cons_self ..))
    rw [addPages, addPage_of_some hroute]
    exact ih fun p hp => h p (List.mem_cons_of_mem _ hp)

theorem undated_discovered (files : FileTree) (directory : String) (now later : Instant)
    (id : String) (rank : Nat) :
    (discovered files directory now id rank).undated =
      (discovered files directory later id rank).undated := by
  unfold discovered Route.undated
  dsimp only
  cases (Descriptor.ofFile files (descriptorPath directory id)).isOk <;> rfl

/-- The route of a page that is found has the rank of the page. -/
theorem order_discovered (files : FileTree) (directory : String) (now : Instant) (id : String)
    (rank : Nat) : (discovered files directory now id rank).info.order = Int64.ofNat rank := by
  unfold discovered discoveredInfo
  dsimp only
  cases Descriptor.ofFile files (descriptorPath directory id) with
  | error failure => rfl
  | ok d =>
    dsimp only
    cases d.page <;> rfl

theorem SameButTimes.isNone_eq (h : r.SameButTimes r') (id : String) :
    (r.get? id).isNone = (r'.get? id).isNone := by
  have hsame := congrArg Option.isNone (h id)
  rwa [Option.isNone_map, Option.isNone_map] at hsame

/-- The time tells in the routes, which are compared without it, and nowhere else. -/
theorem addPages_later (pages : List (String × Nat)) (h : r.SameButTimes r') :
    (addPages files directory now pages r).1 = (addPages files directory later pages r').1 ∧
      (addPages files directory now pages r).2.SameButTimes
        (addPages files directory later pages r').2 := by
  induction pages generalizing r r' with
  | nil => exact ⟨rfl, h⟩
  | cons page pages ih =>
    obtain ⟨id, rank⟩ := page
    have hnone := h.isNone_eq id
    rw [addPages, addPages]
    cases hroute : r.get? id with
    | some route =>
      rw [hroute, Option.isNone_some] at hnone
      obtain ⟨route', hroute'⟩ := Option.isSome_iff_exists.1 (Option.isNone_eq_false_iff.1 hnone.symm)
      rw [addPage_of_some hroute, addPage_of_some hroute']
      exact ih h
    | none =>
      rw [hroute, Option.isNone_none] at hnone
      have hroute' := Option.isNone_iff_eq_none.1 hnone.symm
      rw [addPage_of_new hroute, addPage_of_new hroute']
      -- The one route that is added on either side differs in its time alone.
      have hadded : SameButTimes ⟨r.routes.insert id (discovered files directory now id rank)⟩
          ⟨r'.routes.insert id (discovered files directory later id rank)⟩ := by
        intro q
        rw [get?_insert, get?_insert]
        by_cases hq : q = id
        · rw [if_pos hq, if_pos hq, Option.map_some, Option.map_some,
            undated_discovered files directory now later]
        · rw [if_neg hq, if_neg hq]
          exact h q
      obtain ⟨hids, hroutes⟩ := ih hadded
      exact ⟨congrArg (id :: ·) hids, hroutes⟩

/-! ## Discovery -/

theorem list_of_names (hnames : files.names directory = .ok names) :
    files.list directory = .ok (names.filterMap EntryName.text?) := by
  rw [FileTree.list, hnames]
  rfl

/-- What a directory holds decides what discovery does, whatever its order. -/
theorem discoverListed_eq_of_perm (h : listed.Perm names) (r : RouteRegistry) :
    r.discoverListed files directory now (listed.filterMap EntryName.text?) =
      r.discoverListed files directory now (names.filterMap EntryName.text?) := by
  rw [discoverListed, discoverListed, pageNames_eq_of_perm (h.filterMap _)]

/-- **Another time** makes no difference but in the times of checks. -/
theorem discoverListed_later (files : FileTree) (directory : String) (now later : Instant)
    (texts : List String) (r : RouteRegistry) :
    (r.discoverListed files directory now texts).1 =
        (r.discoverListed files directory later texts).1 ∧
      (r.discoverListed files directory now texts).2.SameButTimes
        (r.discoverListed files directory later texts).2 :=
  addPages_later _ fun _ => rfl

theorem discover_of_names (hnames : files.names directory = .ok names) (r : RouteRegistry) :
    r.discover files directory now =
      (.ok (r.discoverListed files directory now (names.filterMap EntryName.text?)).1,
        (r.discoverListed files directory now (names.filterMap EntryName.text?)).2) := by
  rw [discover, list_of_names hnames]

theorem mem_discoverListed (hnames : files.names directory = .ok names) (r : RouteRegistry)
    (id : String) :
    id ∈ (r.discoverListed files directory now (names.filterMap EntryName.text?)).1 ↔
      r.get? id = none ∧ IsPage files directory id := by
  rw [discoverListed, mem_addPages, List.zipIdx_map_fst, isPage_iff_of_list (list_of_names hnames)]

theorem get?_discoverListed_of_some (texts : List String) {id : String} {route : Route}
    (h : r.get? id = some route) :
    (r.discoverListed files directory now texts).2.get? id = some route := by
  rw [discoverListed, get?_addPages, h, Option.some_or]

/-- **A new route has the rank of its page.** -/
theorem get?_discoverListed_of_new (hnames : files.names directory = .ok names) {id : String}
    (h : r.get? id = none) (hpage : IsPage files directory id) :
    (r.discoverListed files directory now (names.filterMap EntryName.text?)).2.get? id =
      some (discovered files directory now id (pageRank files directory names id)) := by
  rw [discoverListed, get?_addPages, h, find?_zipIdx (pairwise_pageNames files directory _) 0
    ((isPage_iff_of_list (list_of_names hnames) id).1 hpage), countP_pageNames]
  simp only [Option.none_or, Option.map_some, Nat.zero_add]

theorem discovers_discoverListed (hnames : files.names directory = .ok names) (now : Instant)
    (r : RouteRegistry) :
    r.Discovers files directory names
      (r.discoverListed files directory now (names.filterMap EntryName.text?)).1
      (r.discoverListed files directory now (names.filterMap EntryName.text?)).2 where
  ascending := by
    refine pairwise_addPages ?_ r
    rw [List.zipIdx_map_fst]
    exact pairwise_pageNames files directory _
  new := mem_discoverListed hnames r
  kept id route hroute := get?_discoverListed_of_some _ hroute
  only id route hroute := by
    cases hold : r.get? id with
    | some old =>
      rw [get?_discoverListed_of_some _ hold] at hroute
      exact .inl hroute
    | none =>
      have hsome : ((r.discover files directory now).2.get? id).isSome := by
        rw [discover_of_names hnames]
        exact Option.isSome_of_mem hroute
      have hpage := (r.isSome_discover id).1 hsome
      rw [hold, Option.isSome_none] at hpage
      exact .inr ((mem_discoverListed hnames r id).2
        ⟨hold, hpage.resolve_left Bool.false_ne_true⟩)
  ranked id hid := by
    obtain ⟨hnone, hpage⟩ := (mem_discoverListed hnames r id).1 hid
    have horder := order_discovered files directory now id (pageRank files directory names id)
    refine ⟨_, get?_discoverListed_of_new hnames hnone hpage, rfl, horder, fun hfew => ?_⟩
    rw [horder]
    exact Int64.toInt_ofNat_of_lt (Nat.lt_of_le_of_lt (pageRank_le_length names id) hfew)

/-- After discovery every page is a route. -/
theorem Discovers.isSome {found : RouteRegistry} (h : r.Discovers files directory names ids found)
    {id : String} (hpage : IsPage files directory id) : (found.get? id).isSome := by
  cases hroute : r.get? id with
  | some route => rw [h.kept id route hroute, Option.isSome_some]
  | none =>
    obtain ⟨route, hfound, -⟩ := h.ranked id ((h.new id).2 ⟨hroute, hpage⟩)
    rw [hfound, Option.isSome_some]

/-- **Discovering again** finds nothing, in whatever order the directory is listed. -/
theorem Discovers.again {found : RouteRegistry} (hnames : files.names directory = .ok names)
    (h : r.Discovers files directory names ids found) (later : Instant) :
    found.discoverListed files directory later (names.filterMap EntryName.text?) = ([], found) := by
  apply addPages_of_known
  intro p hp
  have hmem := List.mem_map_of_mem (f := Prod.fst) hp
  rw [List.zipIdx_map_fst] at hmem
  exact h.isSome ((isPage_iff_of_list (list_of_names hnames) p.1).2 hmem)

/-- **Discovery depends on no order, and does all at once.** -/
theorem discover_anyOrder (r : RouteRegistry) (files : FileTree) (directory : String)
    (now : Instant) :
    (∀ fault, files.names directory = .error fault →
      r.discover files directory now =
        (.error (.other ("read pages directory " ++ directory) [fault.text]), r)) ∧
    ∀ names, files.names directory = .ok names → ∃ ids found,
      r.discover files directory now = (.ok ids, found) ∧
      r.Discovers files directory names ids found ∧
      ∀ listed : List EntryName, listed.Perm names → ∀ later,
        (∃ found', r.discoverListed files directory later (listed.filterMap EntryName.text?) =
            (ids, found') ∧ found.SameButTimes found' ∧ (later = now → found' = found)) ∧
        found.discoverListed files directory later (listed.filterMap EntryName.text?) =
          ([], found) ∧
        found.discover files directory later = (.ok [], found) := by
  refine ⟨fun fault hfault => ?_, fun names hnames => ?_⟩
  · rw [discover, FileTree.list, hfault]
    rfl
  · have hdiscovers := discovers_discoverListed hnames now r
    refine ⟨_, _, discover_of_names hnames r, hdiscovers, fun listed hperm later => ?_⟩
    have hagain := hdiscovers.again hnames later
    refine ⟨?_, ?_, ?_⟩
    · rw [discoverListed_eq_of_perm hperm]
      obtain ⟨hids, hroutes⟩ := discoverListed_later files directory now later
        (names.filterMap EntryName.text?) r
      refine ⟨(r.discoverListed files directory later (names.filterMap EntryName.text?)).2,
        Prod.ext hids.symm rfl, hroutes, fun hlater => ?_⟩
      rw [hlater]
    · rw [discoverListed_eq_of_perm hperm, hagain]
    · rw [discover_of_names hnames, hagain]

/-- A directory of two pages, neither of which has a readable descriptor. -/
def brokenAndHome : FileTree where
  entries :=
    ⟨[("pages", .directory), ("pages/broken", .directory), ("pages/broken/page.yaml", .text "["),
      ("pages/home", .directory), ("pages/home/page.yaml", .text "[")], by decide +kernel⟩

/-- A registry that knows one page. -/
def knowsBroken : RouteRegistry :=
  ⟨.ofList [("broken", { id := "broken", info := { title := "Broken", path := "/" }
                         descriptorPath := "broken.yaml" })]⟩

theorem discover_anyOrder_brokenAndHome :
    ∃ ids found, knowsBroken.discover brokenAndHome "pages" ⟨5, 0⟩ = (.ok ids, found) ∧
      knowsBroken.discoverListed brokenAndHome "pages" ⟨5, 0⟩ ["home", "broken"] = (ids, found) ∧
      "broken" ∉ ids ∧ "home" ∈ ids ∧
      (∃ route, found.get? "home" = some route ∧ route.info.order.toInt = 1) ∧
      found.discover brokenAndHome "pages" ⟨9, 0⟩ = (.ok [], found) := by
  have hnames : brokenAndHome.names "pages" = .ok [.text "broken", .text "home"] := rfl
  obtain ⟨ids, found, hdiscover, hdiscovers, hlistings⟩ :=
    (discover_anyOrder knowsBroken brokenAndHome "pages" ⟨5, 0⟩).2 _ hnames
  obtain ⟨⟨found', hlisted, -, hsame⟩, -, -⟩ :=
    hlistings [.text "home", .text "broken"] (.swap ..) ⟨5, 0⟩
  obtain ⟨-, -, hagain⟩ := hlistings _ (.refl _) ⟨9, 0⟩
  rw [hsame rfl] at hlisted
  have hbroken : "broken" ∉ ids := by
    rw [hdiscovers.new]
    decide +kernel
  have hhome : "home" ∈ ids := by
    rw [hdiscovers.new]
    decide +kernel
  obtain ⟨route, hroute, -, -, hrank⟩ := hdiscovers.ranked "home" hhome
  have hone : pageRank brokenAndHome "pages" [.text "broken", .text "home"] "home" = 1 := by
    decide +kernel
  rw [hone] at hrank
  exact ⟨ids, found, hdiscover, hlisted, hbroken, hhome, ⟨route, hroute, hrank (by decide)⟩, hagain⟩

end RouteRegistry

end ThemedPages
