import ThemedPages.Proofs.Component.Builtins
import ThemedPages.Proofs.Route.Registry
import ThemedPages.Proofs.Site.Steps
import ThemedPages.Site.Bootstrap

/-!
# What a started site says of its pages

A site finds its pages and checks them once, when it is started; composing a page loads the
descriptor again and looks up the component types again.

**Theorem (`composes_as_checked`).** As long as the files stay as they are, both agree: a page is
composed, with every component type found, just if the check found it sound.

The invariant is `Checked`. Its parts are that the routes are the pages of the directory, that these
have the builtin component types and no others, and that a route is valid just if its page is sound.
Composing changes a route only if a descriptor does not load, which the last part excludes for a
valid one; and discovery has no page to add, which the first part says.
-/

namespace ThemedPages

variable {files : FileTree} {directory page : String} {now : Instant}

/-- A page of which the descriptor can be read, breaks no rule, and names only builtin component
types. -/
def IsSoundPage (files : FileTree) (directory id : String) : Prop :=
  ∃ d, Descriptor.ofFile files (descriptorPath directory id) = .ok d ∧ d.validate.issues = [] ∧
    ∀ c ∈ d.componentList, c.typeName ∈ Builtin.all.map Prod.fst

theorem ComponentRegistry.HasBuiltins.sound_iff {r : ComponentRegistry} (h : r.HasBuiltins page) :
    Sound files r page (descriptorPath directory page) ↔ IsSoundPage files directory page := by
  simp only [Sound, IsSoundPage, h.contains_iff]

instance : Decidable (IsSoundPage files directory page) :=
  let types : ComponentRegistry := ({} : ComponentRegistry).registerBuiltins page
  have h : types.HasBuiltins page := ComponentRegistry.hasBuiltins_registerBuiltins nofun
  decidable_of_iff (isSound files types page (descriptorPath directory page) = true)
    ((isSound_iff page _).trans h.sound_iff)

/-- A component of which the page has the type is no placeholder. -/
theorem render_ne_placeholder {c : Component} {r : ComponentRegistry}
    (h : r.contains page c.typeName = true) (theme : Option ResolvedTheme) (reason : String) :
    c.render r page theme ≠ .placeholder reason := by
  obtain ⟨type, htype⟩ := (Table.contains_iff _ _).1 h
  unfold Component.render
  rw [ComponentRegistry.get?, htype]
  dsimp only
  cases type c.props ⟨page, c.id, theme⟩ <;> exact nofun

/-- **A configuration can be used** if what it names is there, and refreshes are apart. -/
theorem SiteConfig.paths_eq_ok_iff (c : SiteConfig) (files : FileTree) (pages store : String) :
    c.paths files = .ok (pages, store) ↔
      (c.pages = some pages ∧ files.isDirectory pages = true) ∧
      (c.store = some store ∧ files.isFile store = true) ∧ c.refresh ≠ some 0 := by
  have hthrow : ∀ (failure : Failure) (f : PUnit → Except Failure (String × String)),
      (throw failure >>= f) = .error failure := fun _ _ => rfl
  unfold paths
  cases c.pages with
  | none => simp
  | some pages' =>
    by_cases hdirectory : files.isDirectory pages' = true
    · cases c.store with
      | none => simp [hdirectory]
      | some store' =>
        by_cases hfile : files.isFile store' = true
        · by_cases hrefresh : c.refresh = some 0
          · simp [hdirectory, hfile, hrefresh, hthrow]
          · suffices h : pages' = pages ∧ store' = store ↔
                (pages' = pages ∧ files.isDirectory pages = true) ∧
                  store' = store ∧ files.isFile store = true by
              simpa [hdirectory, hfile, hrefresh, pure, Except.pure] using h
            constructor
            · rintro ⟨rfl, rfl⟩
              exact ⟨⟨rfl, hdirectory⟩, rfl, hfile⟩
            · rintro ⟨⟨hpages, -⟩, hstore, -⟩
              exact ⟨hpages, hstore⟩
        · refine iff_of_false (by simp [hdirectory, hfile, hthrow]) ?_
          rintro ⟨-, ⟨⟨⟩, hthere⟩, -⟩
          exact hfile hthere
    · refine iff_of_false (by simp [hdirectory, hthrow]) ?_
      rintro ⟨⟨⟨⟩, hthere⟩, -⟩
      exact hdirectory hthere

namespace Site

variable {s s' : Site MemoryStore}

/-! ## Finding pages -/

theorem run_registerEach {σ : Type} (ids : List String) (s : Site σ) :
    (ids.forM fun id => onComponents (·.registerBuiltins id)) s =
      (.ok ⟨⟩, { s with
        components := ids.foldl ComponentRegistry.registerBuiltins s.components }) := by
  induction ids generalizing s with
  | nil => rfl
  | cons id ids ih => exact ih { s with components := s.components.registerBuiltins id }

/-- **Discovery** registers the new pages, and the builtin component types for each of them. -/
theorem run_discover {σ : Type} (files : FileTree) (now : Instant) (directory : String)
    (s : Site σ) :
    discover files now directory s = ((s.routes.discover files directory now).1,
      { s with
        routes := (s.routes.discover files directory now).2
        components := (RouteRegistry.newIds files directory now s.routes).foldl
          ComponentRegistry.registerBuiltins s.components }) := by
  rw [discover, run_bind, run_onRoutes]
  dsimp only
  rw [run_bind, run_lift, RouteRegistry.newIds]
  cases (s.routes.discover files directory now).1 with
  | error failure => rfl
  | ok ids => exact bind_ok (run_registerEach ids _)

/-- Every route is a page of the directory, with its descriptor and the builtin component types. -/
structure Consistent (files : FileTree) (directory : String) (s : Site MemoryStore) : Prop where
  onlyBuiltins : ∀ id, s.components.OnlyBuiltins id
  page : ∀ id route, s.routes.get? id = some route →
    IsPage files directory id ∧ route.descriptorPath = descriptorPath directory id ∧
      s.components.HasBuiltins id

/-- Every page of the directory is a route, too. -/
structure Found (files : FileTree) (directory : String) (s : Site MemoryStore) : Prop
    extends Consistent files directory s where
  route : ∀ id, IsPage files directory id → (s.routes.get? id).isSome

/-- A route is valid just if its page is sound, too. -/
structure Checked (files : FileTree) (directory : String) (s : Site MemoryStore) : Prop
    extends Found files directory s where
  valid_iff : ∀ id route, s.routes.get? id = some route →
    (route.isValid = true ↔ IsSoundPage files directory id)

theorem Found.isSome_iff (h : Found files directory s) (id : String) :
    (s.routes.get? id).isSome ↔ IsPage files directory id := by
  refine ⟨fun hroute => ?_, h.route id⟩
  obtain ⟨route, hroute⟩ := Option.isSome_iff_exists.1 hroute
  exact (h.page id route hroute).1

theorem Consistent.discover (h : Consistent files directory s) (now : Instant) :
    Found files directory (discover files now directory s).2 := by
  rw [run_discover]
  refine ⟨⟨fun id => (h.onlyBuiltins id).registerEach _, fun id route hroute => ?_⟩,
    fun id hpage => (s.routes.isSome_discover id).2 (.inr hpage)⟩
  rcases s.routes.get?_discover id with hold | ⟨hnone, hpage, rank, hnew⟩
  · obtain ⟨hpage, hpath, htypes⟩ := h.page id route (hold.symm.trans hroute)
    refine ⟨hpage, hpath, fun name type => ?_⟩
    have habsent : id ∉ RouteRegistry.newIds files directory now s.routes := fun hmem => by
      rw [RouteRegistry.mem_newIds, ← hold, hroute] at hmem
      nomatch hmem.1
    rw [ComponentRegistry.get?_registerEach_of_not_mem habsent]
    exact htypes name type
  · cases hnew.symm.trans hroute
    exact ⟨hpage, rfl, ComponentRegistry.hasBuiltins_registerEach (h.onlyBuiltins id)
      ((s.routes.mem_newIds id).2 ⟨hnone, hpage⟩)⟩

/-- Where all pages are routes there are no new ones. -/
theorem Found.get?_discover (h : Found files directory s) (now : Instant) (id : String) :
    (discover files now directory s).2.routes.get? id = s.routes.get? id := by
  rw [run_discover]
  rcases s.routes.get?_discover id with hold | ⟨hnone, hpage, -⟩
  · exact hold
  · have hroute := h.route id hpage
    rw [hnone] at hroute
    nomatch hroute

/-! ## Checking routes -/

/-- **All routes are checked** with the component types as they are. -/
theorem revalidate_snd (files : FileTree) (now : Instant) (s : Site MemoryStore) :
    (revalidate files now s).2 =
      { s with routes := (s.routes.revalidateAll files s.components now).2 } := rfl

theorem Found.revalidate (h : Found files directory s) (now : Instant) :
    Checked files directory (revalidate files now s).2 := by
  rw [revalidate_snd]
  have hchecked : ∀ id route, (s.routes.revalidateAll files s.components now).2.get? id =
      some route → ∃ old, s.routes.get? id = some old ∧
        old.checked files s.components now id = route := by
    intro id route hroute
    rwa [RouteRegistry.get?_revalidateAll, Option.map_eq_some_iff] at hroute
  refine ⟨⟨⟨h.onlyBuiltins, fun id route hroute => ?_⟩, fun id hpage => ?_⟩,
    fun id route hroute => ?_⟩
  · obtain ⟨old, hold, rfl⟩ := hchecked id route hroute
    exact h.page id old hold
  · rw [RouteRegistry.get?_revalidateAll, Option.isSome_map]
    exact h.route id hpage
  · obtain ⟨old, hold, rfl⟩ := hchecked id route hroute
    obtain ⟨-, hpath, htypes⟩ := h.page id old hold
    rw [Route.checked, isSound_iff, hpath]
    exact htypes.sound_iff

/-! ## Composing pages -/

/-- What composing a page gives. -/
inductive Answers (files : FileTree) (directory : String) (s : Site MemoryStore) (page : String)
    (filter : ComponentFilter) : Composition → Prop
  | unknown (unregistered : s.routes.get? page = none) :
      Answers files directory s page filter (.notFound page .unknownRoute)
  | invalid {route : Route} (registered : s.routes.get? page = some route)
      (invalid : route.isValid = false) :
      Answers files directory s page filter (.notFound page .invalidRoute)
  /-- The page has all components of its descriptor, and none of them is a placeholder. -/
  | composed {route : Route} {d : Descriptor} {theme : Option ResolvedTheme}
      (registered : s.routes.get? page = some route) (valid : route.isValid = true)
      (read : Descriptor.ofFile files (descriptorPath directory page) = .ok d)
      (known : ∀ n ∈ (d.compose s.components page theme).nodes, ∀ reason,
        n.output ≠ .placeholder reason) :
      Answers files directory s page filter
        (.page ((d.compose s.components page theme).withFilter filter))

/-- **A checked site composes** as it was checked, and only its themes change. -/
theorem Checked.run_composePage (h : Checked files directory s) (now : Instant) (page : String)
    (filter : ComponentFilter) :
    ∃ composition themes,
      composePage files now page filter s = (.ok composition, { s with themes }) ∧
      Answers files directory s page filter composition := by
  cases hroute : s.routes.get? page with
  | none => exact ⟨_, _, composePage_unknown files now filter hroute, .unknown hroute⟩
  | some route =>
    cases hvalid : route.isValid with
    | false =>
      exact ⟨_, _, composePage_invalid files now filter hroute hvalid, .invalid hroute hvalid⟩
    | true =>
      obtain ⟨d, hread, hissues, hknown⟩ := (h.valid_iff page route hroute).1 hvalid
      obtain ⟨-, hpath, htypes⟩ := h.page page route hroute
      have hload := (Descriptor.load_eq_ok_iff files _ d).2 ⟨hread, hissues⟩
      rw [← hpath] at hload
      refine ⟨_, _, composePage_loaded files now filter hroute hvalid hload,
        .composed hroute hvalid hread fun n hn => ?_⟩
      obtain ⟨c, hc, rfl⟩ := List.mem_map.1 (List.mem_mergeSort.1 hn)
      exact render_ne_placeholder ((htypes.contains_iff c.typeName).2 (hknown c hc)) _

/-! ## Going on -/

/-- The routes and the component types stay as they are. -/
def SameRegistries (s s' : Site MemoryStore) : Prop :=
  s'.routes = s.routes ∧ s'.components = s.components

theorem SameRegistries.refl (s : Site MemoryStore) : SameRegistries s s := ⟨rfl, rfl⟩

theorem SameRegistries.trans {s₁ s₂ s₃ : Site MemoryStore} (h : SameRegistries s₁ s₂)
    (h' : SameRegistries s₂ s₃) : SameRegistries s₁ s₃ := ⟨h'.1.trans h.1, h'.2.trans h.2⟩

theorem Checked.of_same (h : Checked files directory s) (same : SameRegistries s s') :
    Checked files directory s' := by
  obtain ⟨hroutes, hcomponents⟩ := same
  refine ⟨⟨⟨?_, ?_⟩, ?_⟩, ?_⟩
  · exact hcomponents ▸ h.onlyBuiltins
  · exact hroutes ▸ hcomponents ▸ h.page
  · exact hroutes ▸ h.route
  · exact hroutes ▸ h.valid_iff

theorem sameRegistries_applying (page : String) (m : EngineM MemoryStore ResolvedTheme) :
    Moves SameRegistries (applying page m) := by
  intro s
  rw [run_applying]
  exact ⟨rfl, rfl⟩

theorem sameRegistries_refreshAll (order : VisitOrder) :
    Moves SameRegistries (refreshAll order : SiteM MemoryStore Unit) := by
  intro s
  rw [refreshAll_snd]
  refine Moves.forM (R := SameRegistries) .refl .trans (fun page s => ?_) _ { s with themes := _ }
  rw [run_applyAgain]
  exact sameRegistries_applying page _ s

end Site

/-- A call that finds the files as they are, and the pages in the same directory. -/
def SiteCall.Finds (files : FileTree) (directory : String) : SiteCall → Prop
  | .discover files' _ directory' => files' = files ∧ directory' = directory
  | .revalidate files' _ => files' = files
  | .compose files' _ _ _ => files' = files
  | _ => True

/-- A call that has to do with themes and styles only. -/
def SiteCall.ForThemes : SiteCall → Prop
  | .discover _ _ _ => False
  | .revalidate _ _ => False
  | .compose _ _ _ _ => False
  | _ => True

namespace Site

variable {s s' : Site MemoryStore}

theorem sameRegistries_perform {call : SiteCall} (forThemes : call.ForThemes) :
    Moves SameRegistries (perform call) := by
  cases call with
  | discover => exact forThemes.elim
  | revalidate => exact forThemes.elim
  | compose => exact forThemes.elim
  | pageTheme page => exact (sameRegistries_applying page _).discard
  | applyTheme page id isVariation => exact (sameRegistries_applying page _).discard
  | resetTheme page => exact (sameRegistries_applying page _).discard
  | refreshPage page => exact (sameRegistries_applying page _).discard
  | refreshAll order => exact sameRegistries_refreshAll order
  | refreshRound pages order =>
    refine (sameRegistries_refreshAll order).bind .trans fun _ => ?_
    exact Moves.forM .refl .trans (fun page => (sameRegistries_applying page _).discard) pages

theorem Checked.discover (h : Checked files directory s) (now : Instant) :
    Checked files directory (discover files now directory s).2 := by
  refine ⟨h.toConsistent.discover now, fun id route hroute => ?_⟩
  rw [h.get?_discover] at hroute
  exact h.valid_iff id route hroute

/-- **Every call keeps a checked site checked.** -/
theorem Checked.perform (h : Checked files directory s) {call : SiteCall}
    (finds : call.Finds files directory) : Checked files directory (perform call s).2 := by
  cases call with
  | discover files' now directory' =>
    obtain ⟨rfl, rfl⟩ := finds
    rw [Site.perform, run_discard]
    exact h.discover now
  | revalidate files' now =>
    cases finds
    rw [Site.perform, run_discard]
    exact h.toFound.revalidate now
  | compose files' now page filter =>
    cases finds
    obtain ⟨composition, themes, hrun, -⟩ := h.run_composePage now page filter
    rw [Site.perform, run_discard, run_compose, hrun]
    exact h.of_same ⟨rfl, rfl⟩
  | _ =>
    refine h.of_same (sameRegistries_perform ?_ s)
    exact trivial

/-- The sites that a site becomes while the files stay as they are: it gets calls, and everything
that has to do with themes changes in any way. -/
inductive GoesOn (files : FileTree) (directory : String) (s : Site MemoryStore) :
    Site MemoryStore → Prop
  | start : GoesOn files directory s s
  | call {s' : Site MemoryStore} (h : GoesOn files directory s s') {call : SiteCall}
      (finds : call.Finds files directory) : GoesOn files directory s (perform call s').2
  | themed {s' : Site MemoryStore} (h : GoesOn files directory s s')
      (themes : ThemeEngine MemoryStore) (styles : StyleInjector) :
      GoesOn files directory s { s' with themes, styles }

theorem Checked.goesOn (h : Checked files directory s) (on : GoesOn files directory s s') :
    Checked files directory s' := by
  induction on with
  | start => exact h
  | call _ finds ih => exact ih.perform finds
  | themed _ themes styles ih => exact ih.of_same ⟨rfl, rfl⟩

/-! ## Starting a site -/

/-- A site before it looks for pages. -/
def unfilled (config : SiteConfig) (target : StyleTarget) (store : MemoryStore) :
    Site MemoryStore where
  themes := { store, fallback := config.fallback }
  styles := { target, options := config.styles }

/-- A site that has looked for its pages and checked its routes. -/
def filled (config : SiteConfig) (files : FileTree) (now : Instant) (directory : String)
    (target : StyleTarget) (store : MemoryStore) : Site MemoryStore :=
  (revalidate files now (discover files now directory (unfilled config target store)).2).2

theorem checked_filled (config : SiteConfig) (target : StyleTarget) (store : MemoryStore)
    (files : FileTree) (directory : String) (now : Instant) :
    Checked files directory (filled config files now directory target store) := by
  refine (Consistent.discover ⟨?_, ?_⟩ now).revalidate now
  · intro id name type found
    nomatch found
  · intro id route found
    nomatch found

/-- **Starting a site**: it looks for pages, and if that succeeds it checks its routes. -/
theorem bootstrap_of_load {config : SiteConfig} {path : String} {store : MemoryStore}
    (paths : config.paths files = .ok (directory, path))
    (load : MemoryStore.load files path = .ok store) (now : Instant) (target : StyleTarget) :
    bootstrap config files now target =
      (discover files now directory (unfilled config target store)).1.map fun _ =>
        filled config files now directory target store := by
  unfold bootstrap
  rw [paths, Except.bind_of_ok]
  dsimp only
  rw [load, Except.bind_of_ok, ← unfilled, run_bind, filled]
  cases discover files now directory (unfilled config target store) with
  | mk outcome next => cases outcome <;> rfl

theorem exists_of_bootstrap {config : SiteConfig} {target : StyleTarget}
    (started : bootstrap config files now target = .ok s) :
    ∃ directory path store, config.paths files = .ok (directory, path) ∧
      MemoryStore.load files path = .ok store ∧
      s = filled config files now directory target store := by
  obtain ⟨⟨directory, path⟩, hpaths, hrest⟩ := Except.exists_of_bind started
  obtain ⟨store, hload, -⟩ := Except.exists_of_bind hrest
  rw [bootstrap_of_load hpaths hload] at started
  refine ⟨directory, path, store, hpaths, hload, ?_⟩
  cases hdiscover : (discover files now directory (unfilled config target store)).1 with
  | error failure =>
    rw [hdiscover] at started
    nomatch started
  | ok ids =>
    rw [hdiscover] at started
    exact (Except.ok.inj started).symm

/-- **A page is composed as it was checked.** -/
theorem composes_as_checked {config : SiteConfig} {target : StyleTarget}
    (started : bootstrap config files now target = .ok s) :
    ∃ directory, config.pages = some directory ∧
      ∀ s', GoesOn files directory s s' →
        (∀ id, (s'.routes.get? id).isSome ↔ IsPage files directory id) ∧
        (∀ id route, s'.routes.get? id = some route →
          (route.isValid = true ↔ IsSoundPage files directory id)) ∧
        ∀ page filter now', ∃ composition,
          (composePage files now' page filter s').1 = .ok composition ∧
          (compose files now' page filter s').1 = .ok composition ∧
          Answers files directory s' page filter composition := by
  obtain ⟨directory, path, store, hpaths, -, rfl⟩ := exists_of_bootstrap started
  refine ⟨directory, ((config.paths_eq_ok_iff files directory path).1 hpaths).1.1, fun s' on => ?_⟩
  have hchecked := (checked_filled config target store files directory now).goesOn on
  refine ⟨hchecked.isSome_iff, hchecked.valid_iff, fun page filter now' => ?_⟩
  obtain ⟨composition, themes, hrun, answers⟩ := hchecked.run_composePage now' page filter
  refine ⟨composition, ?_, ?_, answers⟩
  · rw [hrun]
  · rw [run_compose, hrun]

/-- A directory of two pages, of which one has no readable descriptor, and an entry without a name
that is text. -/
def oneOfTwoSound : FileTree where
  entries :=
    ⟨[("pages", .directory), ("pages/broken", .directory), ("pages/broken/page.yaml", .text "["),
      ("pages/home", .directory), ("pages/home/page.yaml", .text <|
        "page:\n  title: Home\n  route: /\nlayout:\n  type: grid\ncomponents:\n" ++
        "- id: hero\n  type: text\n  position:\n    col: 1\n    row: 1\n"),
      ("themes.json", .text
        "\x7b\"themes\": [], \"variations\": [], \"assignments\": []\x7d")], by decide +kernel⟩
  binaryNames := Table.empty.insert "pages" [[0xff]]

theorem composes_as_checked_oneOfTwoSound :
    ∃ s, bootstrap { pages := some "pages", store := some "themes.json" } oneOfTwoSound ⟨0, 0⟩
        .emptyDocument = .ok s ∧
      (∃ p, (compose oneOfTwoSound ⟨0, 0⟩ "home" .all s).1 = .ok (.page p)) ∧
      (compose oneOfTwoSound ⟨0, 0⟩ "broken" .all s).1 = .ok (.notFound "broken" .invalidRoute) ∧
      (compose oneOfTwoSound ⟨0, 0⟩ "about" .all s).1 = .ok (.notFound "about" .unknownRoute) := by
  obtain ⟨s, started⟩ : ∃ s, bootstrap { pages := some "pages", store := some "themes.json" }
      oneOfTwoSound ⟨0, 0⟩ .emptyDocument = .ok s := by
    cases hload : MemoryStore.load oneOfTwoSound "themes.json" with
    | error failure =>
      have hloads : (MemoryStore.load oneOfTwoSound "themes.json").isOk = true := by decide +kernel
      rw [hload] at hloads
      nomatch hloads
    | ok store =>
      rw [bootstrap_of_load rfl hload, run_discover, RouteRegistry.discover]
      exact ⟨_, rfl⟩
  obtain ⟨directory, hdirectory, hon⟩ := composes_as_checked started
  cases hdirectory
  obtain ⟨hpages, hsound, hcompose⟩ := hon s .start
  refine ⟨s, started, ?_, ?_, ?_⟩
  · obtain ⟨composition, -, hrun, answers⟩ := hcompose "home" .all ⟨0, 0⟩
    have hpage : IsPage oneOfTwoSound "pages" "home" := by decide +kernel
    cases answers with
    | unknown unregistered =>
      rw [← hpages, unregistered] at hpage
      nomatch hpage
    | invalid registered invalid =>
      have hvalid := (hsound "home" _ registered).2 (by decide +kernel)
      rw [invalid] at hvalid
      nomatch hvalid
    | composed => exact ⟨_, hrun⟩
  · obtain ⟨composition, -, hrun, answers⟩ := hcompose "broken" .all ⟨0, 0⟩
    have hpage : IsPage oneOfTwoSound "pages" "broken" := by decide +kernel
    cases answers with
    | unknown unregistered =>
      rw [← hpages, unregistered] at hpage
      nomatch hpage
    | invalid => exact hrun
    | composed registered valid =>
      exact absurd ((hsound "broken" _ registered).1 valid) (by decide +kernel)
  · obtain ⟨composition, -, hrun, answers⟩ := hcompose "about" .all ⟨0, 0⟩
    have hpage : ¬IsPage oneOfTwoSound "pages" "about" := by decide +kernel
    have hregistered : ∀ route, s.routes.get? "about" ≠ some route := fun route found =>
      hpage ((hpages "about").1 (by rw [found]; rfl))
    cases answers with
    | unknown => exact hrun
    | invalid registered => exact absurd registered (hregistered _)
    | composed registered => exact absurd registered (hregistered _)

end Site

end ThemedPages
