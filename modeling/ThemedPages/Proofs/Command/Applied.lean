import ThemedPages.Command.Run
import ThemedPages.Proofs.Engine.Coherence
import ThemedPages.Proofs.Site.Verdicts
import ThemedPages.Proofs.Store.Saving

/-!
# Applied themes and later runs

A run that applies a theme loads the themes, assigns the page, and writes all themes back. A run
that prints the stylesheet of a page loads what was written, and resolves the page with nothing
cached.

**Theorem (`applied_theme_survives_iff`).** After a run that applied a theme to a page, a run for
the stylesheet of the page succeeds, and prints that of the applied theme, just if the first run
loaded the default theme of its file. It does not load it when a later theme of the file has the
same id. The snapshot is accepted all the same, since default themes are counted before any theme
is kept under its id; but what is written back then has no default theme, and is not accepted.
-/

namespace ThemedPages

/-! ## Starting a site -/

namespace Site

variable {config : SiteConfig} {files : FileTree} {now : Instant} {directory path : String}
  {target : StyleTarget}

theorem themes_filled (store : MemoryStore) :
    (filled config files now directory target store).themes =
      { store, fallback := config.fallback } := by
  rw [filled, revalidate_snd, run_discover]
  rfl

theorem styles_filled (store : MemoryStore) :
    (filled config files now directory target store).styles =
      { target, options := config.styles } := by
  rw [filled, revalidate_snd, run_discover]
  rfl

theorem discover_ok (hdirectory : files.isDirectory directory = true) (now : Instant)
    (s : Site MemoryStore) : ∃ ids, (discover files now directory s).1 = .ok ids := by
  obtain ⟨names, hnames⟩ := FileTree.exists_list hdirectory
  rw [run_discover, RouteRegistry.discover, hnames]
  exact ⟨_, rfl⟩

/-- **Starting a site** from a configuration that can be used fails only if its themes cannot be
loaded. -/
theorem bootstrap_of_paths (hpaths : config.paths files = .ok (directory, path)) (now : Instant)
    (target : StyleTarget) :
    bootstrap config files now target =
      (MemoryStore.load files path).map (filled config files now directory target) := by
  cases hload : MemoryStore.load files path with
  | error failure =>
    rw [bootstrap, hpaths, Except.bind_of_ok]
    dsimp only
    rw [hload]
    rfl
  | ok store =>
    obtain ⟨ids, hids⟩ := discover_ok ((config.paths_eq_ok_iff files directory path).1 hpaths).1.2
      now (unfilled config target store)
    rw [bootstrap_of_load hpaths hload, hids]
    rfl

end Site

/-! ## What is written back -/

namespace MemoryStore

variable {s s' : MemoryStore} {files files' : FileTree} {page path : String}
  {target : AssignmentTarget} {key : ThemeKey} {t : ResolvedTheme}

theorem themes_ne_nil_of_themeAt (h : s.themeAt key = .ok t) : s.themes.values ≠ [] := by
  have hne : ∀ id u, s.themes.get? id = some u → s.themes.values ≠ [] := fun id u hu =>
    List.ne_nil_of_mem ((Table.mem_values_iff _ _).2 ⟨id, hu⟩)
  cases key with
  | theme id =>
    obtain ⟨u, hu, -⟩ := themeAt_theme_eq_ok_iff.1 h
    exact hne id u hu
  | variation id =>
    obtain ⟨v, parent, -, hparent, -⟩ := themeAt_variation_eq_ok_iff.1 h
    exact hne _ parent hparent

/-- **A file is loaded again** after a page was assigned, if the file's default theme was loaded. -/
theorem load_of_assigned (hload : load files path = .ok s)
    (hc : s.Change (.assign page target) s') (hthemes : s.themes.values ≠ [])
    (hsave : s'.save files path = .ok files') :
    (s.HasDefault → load files' path = .ok { s' with lastNumber := 0, offline := false }) ∧
      (¬s.HasDefault → load files' path = .error noDefaultFailure) := by
  obtain ⟨snapshot, -, hloaded⟩ := load_ok hload
  have hintegrity := (integrity_loaded hloaded).change hc
  have hdefault := (integrity_loaded hloaded).hasDefault_change hc
  have hvalid := isValid_of_load hload
  cases hc.eq_of_assign
  simp only [StoreCall.setsDefault, Bool.false_eq_true, or_false] at hdefault
  rw [load_save hsave hvalid, ← hdefault]
  refine ⟨fun h => ?_, ofSnapshot_of_not_hasDefault hthemes⟩
  exact hintegrity.ofSnapshot_snapshot (.inr (hintegrity.length_defaults_eq_one_iff.2 h))

end MemoryStore

namespace ThemeEngine

variable {e : ThemeEngine MemoryStore} {page id : String} {isVariation : Bool} {t : ResolvedTheme}

/-- **An assigned page has the theme by the store** that was given for it. -/
theorem applyTheme_ok (h : e.store.Integrity) (ht : (applyTheme page id isVariation e).1 = .ok t) :
    (∃ target, e.store.Change (.assign page target) (applyTheme page id isVariation e).2.store) ∧
      e.store.themes.values ≠ [] ∧
      ∀ fallback, (applyTheme page id isVariation e).2.store.themeOf fallback page = .ok t := by
  rcases run_applyTheme h page id isVariation with
    ⟨failure, hrun⟩ | ⟨key, t', target, state, leads, found, -, stored, hrun⟩
  · rw [hrun] at ht
    nomatch ht
  · rw [hrun] at ht ⊢
    cases ht
    have htarget : (e.store.assign page target).2.target page = .ok (key, state) := by
      rw [stored.eq_of_assign, MemoryStore.target_eq_ok_iff]
      exact .inl ⟨⟨page, target⟩, Table.get?_insert_self _ _ _, leads⟩
    have hthemeAt : (e.store.assign page target).2.themeAt key = .ok t := by
      rw [stored.eq_of_assign, ← found]
      cases key <;> rfl
    exact ⟨⟨target, stored⟩, MemoryStore.themes_ne_nil_of_themeAt found,
      themeOf_eq_ok htarget hthemeAt⟩

end ThemeEngine

/-- The stylesheet that an injector with the usual options makes of a page with a theme. -/
def pageStylesheet (page : String) (t : ResolvedTheme) : String :=
  stylesheet (({ target := .emptyDocument } : StyleInjector).inject page t).2.target.elements

/-- **A new site shows a page by its store.** -/
theorem Site.pageTheme_filled {config : SiteConfig} {store : MemoryStore} {path page : String}
    {t : ResolvedTheme} {files : FileTree} (usual : config.styles = {})
    (hload : MemoryStore.load files path = .ok store)
    (ht : store.themeOf config.fallback page = .ok t) (now : Instant) (directory : String) :
    ∃ next, Site.pageTheme page (filled config files now directory .emptyDocument store) =
        (.ok t, next) ∧
      stylesheet next.styles.target.elements = pageStylesheet page t := by
  obtain ⟨snapshot, -, hloaded⟩ := MemoryStore.load_ok hload
  have hintegrity := MemoryStore.integrity_loaded hloaded
  have hserved : (ThemeEngine.pageTheme page { store, fallback := config.fallback }).1 = .ok t := by
    rw [(ThemeEngine.coherent_new hintegrity config.fallback).served_eq_themeOf
      (MemoryStore.online_loaded hloaded) (ThemeEngine.served_pageTheme hintegrity page)]
    exact ht
  rw [Site.pageTheme, run_applying, themes_filled, styles_filled, hserved, usual]
  exact ⟨_, rfl, rfl⟩

/-! ## Running commands -/

open CommandM

variable {config : SiteConfig} {page id step : String} {isVariation : Bool} {now : Instant}
  {s s' : String × FileTree} {site : CommandSite} {t : ResolvedTheme}

theorem during_ok {α : Type} {outcome : Except Failure α} {a : α}
    (h : during step outcome s = (.ok a, s')) : outcome = .ok a ∧ s' = s := by
  cases outcome with
  | error failure => nomatch h
  | ok b =>
    cases h
    exact ⟨rfl, rfl⟩

theorem saveThemes_ok (h : saveThemes config site s = (.ok (), s')) :
    ∃ path, config.store = some path ∧ site.themes.store.save s.2 path = .ok s'.2 := by
  unfold saveThemes at h
  cases hstore : config.store with
  | none =>
    rw [hstore] at h
    nomatch h
  | some path =>
    rw [hstore] at h
    dsimp only at h
    rw [run_bind_eq_ok_iff] at h
    obtain ⟨_, _, ⟨⟩, h⟩ := h
    rw [run_bind_eq_ok_iff] at h
    obtain ⟨_, _, hsave, h⟩ := h
    obtain ⟨hfiles, rfl⟩ := during_ok hsave
    cases h
    exact ⟨path, rfl, hfiles⟩

/-- Change a site that was just started, and save its themes. -/
def changeSaved {α : Type} (config : SiteConfig) (now : Instant) (step : String)
    (change : SiteM MemoryStore α) (line : α → String) : CommandM Unit := do
  let site ← startSite config now
  let (outcome, site) := change site
  let a ← during step outcome
  saveThemes config site
  print (line a)

theorem changeSaved_ok {α : Type} {change : SiteM MemoryStore α} {line : α → String}
    (h : changeSaved config now step change line s = (.ok (), s')) :
    ∃ site a path, Site.bootstrap config s.2 now .emptyDocument = .ok site ∧
      (change site).1 = .ok a ∧ config.store = some path ∧
      (change site).2.themes.store.save s.2 path = .ok s'.2 := by
  rw [changeSaved, run_bind_eq_ok_iff] at h
  obtain ⟨site, _, hstart, h⟩ := h
  obtain ⟨hsite, rfl⟩ := during_ok hstart
  refine ⟨site, ?_⟩
  generalize change site = changed at h ⊢
  obtain ⟨outcome, next⟩ := changed
  rw [run_bind_eq_ok_iff] at h
  obtain ⟨a, _, hchange, h⟩ := h
  obtain ⟨ha, rfl⟩ := during_ok hchange
  rw [run_bind_eq_ok_iff] at h
  obtain ⟨_, _, hsave, h⟩ := h
  obtain ⟨path, hpath, hfiles⟩ := saveThemes_ok hsave
  cases h
  exact ⟨a, path, hsite, ha, hpath, hfiles⟩

theorem runApply_eq (config : SiteConfig) (now : Instant) (page id : String)
    (isVariation : Bool) : runApply config now page id isVariation =
      changeSaved config now ("apply '" ++ id ++ "' to '" ++ page ++ "'")
        (Site.applyTheme page id isVariation) fun applied => page ++ ": " ++ applied.name ++ " (" ++
          toString applied.properties.size ++ " properties)\n" := rfl

/-- A run that applies a theme starts a site, applies the theme, and writes the themes. -/
theorem runApply_ok (h : runApply config now page id isVariation s = (.ok (), s')) :
    ∃ site t path, Site.bootstrap config s.2 now .emptyDocument = .ok site ∧
      (Site.applyTheme page id isVariation site).1 = .ok t ∧ config.store = some path ∧
      (Site.applyTheme page id isVariation site).2.themes.store.save s.2 path = .ok s'.2 := by
  rw [runApply_eq] at h
  exact changeSaved_ok h

theorem run_startSite (config : SiteConfig) (now : Instant) (s : String × FileTree) :
    startSite config now s = during "start pagesmith runtime"
      (Site.bootstrap config s.2 now .emptyDocument) s := rfl

/-- A run for the stylesheet of a page starts a site and resolves the page. -/
theorem runCss_served {next : CommandSite}
    (hsite : Site.bootstrap config s.2 now .emptyDocument = .ok site)
    (hserved : Site.pageTheme page site = (.ok t, next)) :
    runCss config now page s =
      (.ok (), (s.1 ++ stylesheet next.styles.target.elements, s.2)) := by
  have hstart : startSite config now s = (.ok site, s) := by
    rw [run_startSite, hsite]
    rfl
  have hshown : showPages site [page] s = (.ok next, s) := by
    rw [showPages, hserved]
    rfl
  rw [runCss, bind_ok hstart, bind_ok hshown]
  rfl

theorem runCss_unstarted {failure : Failure} (page : String)
    (h : Site.bootstrap config s.2 now .emptyDocument = .error failure) :
    runCss config now page s = (.error (failure.during "start pagesmith runtime"), s) := by
  refine bind_error ?_
  rw [run_startSite, h]
  rfl

/-! ## Command lines -/

variable {valueOf? : String → Option String} {args : List String} {files : FileTree}
  {i : Invocation}

theorem runCommandLine_done (hi : Invocation.ofArguments? valueOf? args = some i)
    (h : (runCommandLine valueOf? args files now).code = 0) :
    i.run now ("", files) =
      (.ok (), ((runCommandLine valueOf? args files now).output,
        (runCommandLine valueOf? args files now).files)) := by
  simp only [runCommandLine, hi] at h ⊢
  cases hrun : i.run now ("", files) with
  | mk outcome next =>
    rw [hrun] at h
    cases outcome with
    | error failure => nomatch h
    | ok u => rfl

/-- No option of a command line is about styles or about a fallback. -/
theorem Invocation.usual_of_ofArguments? (hi : Invocation.ofArguments? valueOf? args = some i) :
    i.config.styles = {} ∧ i.config.fallback = none := by
  unfold Invocation.ofArguments? at hi
  obtain ⟨⟨before, rest⟩, -, hi⟩ := Option.bind_eq_some_iff.1 hi
  cases rest with
  | nil => nomatch hi
  | cons name rest =>
    obtain ⟨known, -, hi⟩ := Option.bind_eq_some_iff.1 hi
    obtain ⟨⟨after, _⟩, -, hi⟩ := Option.bind_eq_some_iff.1 hi
    obtain ⟨config, hconfig, hi⟩ := Option.bind_eq_some_iff.1 hi
    obtain ⟨command, -, hi⟩ := Option.bind_eq_some_iff.1 hi
    cases hi
    obtain ⟨pages, -, hconfig⟩ := Option.bind_eq_some_iff.1 hconfig
    obtain ⟨store, -, hconfig⟩ := Option.bind_eq_some_iff.1 hconfig
    obtain ⟨refresh, -, hconfig⟩ := Option.bind_eq_some_iff.1 hconfig
    cases hconfig
    exact ⟨rfl, rfl⟩

/-- A run for the stylesheet of a page, if the themes can be loaded. -/
theorem css_of_load {directory path : String} {store : MemoryStore}
    (shows : Invocation.ofArguments? valueOf? args = some ⟨config, .css page⟩)
    (hpaths : config.paths files = .ok (directory, path))
    (hload : MemoryStore.load files path = .ok store)
    (ht : store.themeOf none page = .ok t) (now : Instant) :
    runCommandLine valueOf? args files now = ⟨0, pageStylesheet page t, "", files⟩ := by
  obtain ⟨usual, hfallback⟩ := Invocation.usual_of_ofArguments? shows
  have hsite := Site.bootstrap_of_paths hpaths now .emptyDocument
  rw [hload] at hsite
  obtain ⟨next, hserved, hstyles⟩ :=
    Site.pageTheme_filled usual hload (hfallback.symm ▸ ht) now directory
  have hrun := runCss_served (s := ("", files)) hsite hserved
  rw [hstyles, String.empty_append] at hrun
  simp only [runCommandLine, shows, Invocation.run, hrun]

/-- A run for the stylesheet of a page, if the themes cannot be loaded. -/
theorem css_of_load_error {directory path : String} {failure : Failure}
    (shows : Invocation.ofArguments? valueOf? args = some ⟨config, .css page⟩)
    (hpaths : config.paths files = .ok (directory, path))
    (hload : MemoryStore.load files path = .error failure) (now : Instant) :
    runCommandLine valueOf? args files now =
      ⟨1, "", (failure.during "start pagesmith runtime").text, files⟩ := by
  have hsite := Site.bootstrap_of_paths hpaths now .emptyDocument
  rw [hload] at hsite
  have hrun := runCss_unstarted (s := ("", files)) page hsite
  simp only [runCommandLine, shows, Invocation.run, hrun]

/-- Writing the themes leaves a configuration as useful as it was. -/
theorem SiteConfig.paths_of_save {directory path : String} {files' : FileTree}
    {store : MemoryStore} (hpaths : config.paths files = .ok (directory, path))
    (hsave : store.save files path = .ok files') :
    config.paths files' = .ok (directory, path) := by
  obtain ⟨⟨hpages, hdirectory⟩, ⟨hstore, -⟩, hrefresh⟩ :=
    (config.paths_eq_ok_iff files directory path).1 hpaths
  have hwrite := MemoryStore.save_eq_ok hsave
  have hkept := (FileTree.keepsDirectories_write hwrite).isDirectory hdirectory
  have hfile := FileTree.isFile_of_find (FileTree.find_write hwrite)
  exact (config.paths_eq_ok_iff files' directory path).2
    ⟨⟨hpages, hkept⟩, ⟨hstore, hfile⟩, hrefresh⟩

variable {valueOf₁ valueOf₂ : String → Option String} {args₁ args₂ : List String}
  {now₁ now₂ : Instant}

/-- **What the next run does** depends on whether the first run loads a default theme. -/
theorem next_run (applies : Invocation.ofArguments? valueOf₁ args₁ =
      some ⟨config, .apply page id isVariation⟩)
    (shows : Invocation.ofArguments? valueOf₂ args₂ = some ⟨config, .css page⟩)
    {first second : RunOutcome} (hfirst : runCommandLine valueOf₁ args₁ files now₁ = first)
    (done : first.code = 0) (hsecond : runCommandLine valueOf₂ args₂ first.files now₂ = second) :
    ∃ path store site t, config.store = some path ∧ MemoryStore.load files path = .ok store ∧
      Site.bootstrap config files now₁ .emptyDocument = .ok site ∧
      (Site.applyTheme page id isVariation site).1 = .ok t ∧
      (store.HasDefault → second = ⟨0, pageStylesheet page t, "", first.files⟩) ∧
      (¬store.HasDefault →
        second = ⟨1, "", (MemoryStore.noDefaultFailure.during "start pagesmith runtime").text,
          first.files⟩) := by
  cases hfirst
  cases hsecond
  obtain ⟨site, t, path, hsite, ht, hpath, hsave⟩ :=
    runApply_ok (runCommandLine_done applies done)
  obtain ⟨directory, path', store, hpaths, hload, rfl⟩ := Site.exists_of_bootstrap hsite
  cases hpath.symm.trans ((config.paths_eq_ok_iff files directory path').1 hpaths).2.1.1
  refine ⟨path, store, _, t, hpath, hload, hsite, ht, ?_⟩
  -- What is written is the store that the engine has once the page is assigned.
  rw [Site.applyTheme, Site.run_applying, Site.themes_filled] at ht hsave
  have hpaths' := SiteConfig.paths_of_save hpaths hsave
  obtain ⟨snapshot, -, hloaded⟩ := MemoryStore.load_ok hload
  obtain ⟨⟨target, hchange⟩, hthemes, hthemeOf⟩ :=
    ThemeEngine.applyTheme_ok (MemoryStore.integrity_loaded hloaded) ht
  obtain ⟨hkept, hlost⟩ := MemoryStore.load_of_assigned hload hchange hthemes hsave
  exact ⟨fun h => css_of_load shows hpaths' (hkept h) (hthemeOf none) now₂,
    fun h => css_of_load_error shows hpaths' (hlost h) now₂⟩

/-- **An applied theme and the next run.** -/
theorem applied_theme_survives_iff (applies : Invocation.ofArguments? valueOf₁ args₁ =
      some ⟨config, .apply page id isVariation⟩)
    (shows : Invocation.ofArguments? valueOf₂ args₂ = some ⟨config, .css page⟩)
    {first second : RunOutcome} (hfirst : runCommandLine valueOf₁ args₁ files now₁ = first)
    (done : first.code = 0) (hsecond : runCommandLine valueOf₂ args₂ first.files now₂ = second) :
    ∃ path snapshot site t, config.store = some path ∧
      MemoryStore.HoldsSnapshot files path snapshot ∧
      Site.bootstrap config files now₁ .emptyDocument = .ok site ∧
      (Site.applyTheme page id isVariation site).1 = .ok t ∧
      (MemoryStore.KeepsDefault snapshot →
        second = ⟨0, pageStylesheet page t, "", first.files⟩) ∧
      (¬MemoryStore.KeepsDefault snapshot →
        second = ⟨1, "", (MemoryStore.noDefaultFailure.during "start pagesmith runtime").text,
          first.files⟩) := by
  obtain ⟨path, store, site, t, hpath, hload, hsite, ht, hsurvives, hlost⟩ :=
    next_run applies shows hfirst done hsecond
  obtain ⟨snapshot, hholds, hloaded⟩ := MemoryStore.load_ok hload
  have hdefault := MemoryStore.hasDefault_loaded_iff hloaded
  exact ⟨path, snapshot, site, t, hpath, hholds, hsite, ht, fun h => hsurvives (hdefault.2 h),
    fun h => hlost fun hd => h (hdefault.1 hd)⟩

/-- A working directory with themes and no pages. -/
def withThemes (themes : String) : FileTree where
  entries := Table.ofList [("pages", .directory), ("themes.json", .text themes)]

/-- A command line for a working directory. -/
def onPages (command : List String) : List String :=
  ["--pages-dir", "pages", "--theme-store", "themes.json"] ++ command

/-- The configuration of these command lines. -/
def pagesConfig : SiteConfig := { pages := some "pages", store := some "themes.json" }

theorem ofArguments?_css : Invocation.ofArguments? (fun _ => none) (onPages ["css", "home"]) =
    some ⟨pagesConfig, .css "home"⟩ := by decide +kernel

/-- A file with one theme. -/
def paleTheme : String :=
  "\x7b\"themes\":[\x7b\"id\":\"pale\",\"name\":\"pale\",\"display_name\":\"Pale\"," ++
    "\"category\":\"light\",\"colors\":\x7b\"bg\":\"#fff\"\x7d,\"is_default\":true\x7d]\x7d"

theorem applied_theme_survives_paleTheme :
    ∃ first second site t,
      runCommandLine (fun _ => none) (onPages ["apply", "home", "pale"]) (withThemes paleTheme)
        ⟨0, 0⟩ = first ∧ first.code = 0 ∧
      runCommandLine (fun _ => none) (onPages ["css", "home"]) first.files ⟨1, 0⟩ = second ∧
      Site.bootstrap pagesConfig (withThemes paleTheme) ⟨0, 0⟩ .emptyDocument = .ok site ∧
      (Site.applyTheme "home" "pale" false site).1 = .ok t ∧
      second = ⟨0, pageStylesheet "home" t, "", first.files⟩ := by
  obtain ⟨first, hfirst⟩ : ∃ first, runCommandLine (fun _ => none)
      (onPages ["apply", "home", "pale"]) (withThemes paleTheme) ⟨0, 0⟩ = first := ⟨_, rfl⟩
  obtain ⟨second, hsecond⟩ : ∃ second, runCommandLine (fun _ => none) (onPages ["css", "home"])
      first.files ⟨1, 0⟩ = second := ⟨_, rfl⟩
  have applies : Invocation.ofArguments? (fun _ => none) (onPages ["apply", "home", "pale"]) =
      some ⟨pagesConfig, .apply "home" "pale" false⟩ := by decide +kernel
  have done : first.code = 0 := by
    rw [← hfirst]
    decide +kernel
  obtain ⟨path, snapshot, site, t, hpath, ⟨letters, hletters, hread⟩, hsite, ht, hsurvives, -⟩ :=
    applied_theme_survives_iff applies ofArguments?_css hfirst done hsecond
  refine ⟨first, second, site, t, hfirst, done, hsecond, hsite, ht, hsurvives ?_⟩
  cases hpath
  have hthemes : ((withThemes paleTheme).readLetters "themes.json").toOption.bind (fun letters =>
      (Json.readLetters? StoreSnapshot.shape letters).bind StoreSnapshot.ofValue?) =
        some {
          themes :=
            [{ id := "pale", name := "pale", displayName := "Pale", category := .light,
               colors := Table.empty.insert "bg" "#fff", isDefault := true }] } := by
    decide +kernel
  rw [hletters] at hthemes
  cases hread.symm.trans hthemes
  exact ⟨[], _, [], rfl, rfl, List.not_mem_nil⟩

/-- A file with two themes of one id, of which the first is the default. -/
def twinThemes : String :=
  "\x7b\"themes\":[\x7b\"id\":\"twin\",\"name\":\"first\",\"display_name\":\"First\"," ++
    "\"category\":\"light\",\"colors\":\x7b\x7d,\"is_default\":true\x7d," ++
    "\x7b\"id\":\"twin\",\"name\":\"second\",\"display_name\":\"Second\"," ++
    "\"category\":\"dark\",\"colors\":\x7b\x7d\x7d]\x7d"

/-- **A theme is applied, and the next run cannot start.** -/
theorem applied_theme_lost :
    ∃ first second,
      runCommandLine (fun _ => none) (onPages ["apply", "home", "twin"]) (withThemes twinThemes)
        ⟨0, 0⟩ = first ∧ first.code = 0 ∧
      runCommandLine (fun _ => none) (onPages ["css", "home"]) first.files ⟨1, 0⟩ = second ∧
      second.code ≠ 0 := by
  obtain ⟨first, hfirst⟩ : ∃ first, runCommandLine (fun _ => none)
      (onPages ["apply", "home", "twin"]) (withThemes twinThemes) ⟨0, 0⟩ = first := ⟨_, rfl⟩
  obtain ⟨second, hsecond⟩ : ∃ second, runCommandLine (fun _ => none) (onPages ["css", "home"])
      first.files ⟨1, 0⟩ = second := ⟨_, rfl⟩
  have applies : Invocation.ofArguments? (fun _ => none) (onPages ["apply", "home", "twin"]) =
      some ⟨pagesConfig, .apply "home" "twin" false⟩ := by decide +kernel
  have done : first.code = 0 := by
    rw [← hfirst]
    decide +kernel
  obtain ⟨path, store, site, t, hpath, hload, -, -, -, hlost⟩ :=
    next_run applies ofArguments?_css hfirst done hsecond
  cases hpath
  have hnone : (MemoryStore.load (withThemes twinThemes) "themes.json").toOption.all
      (·.defaultTheme?.isNone) = true := by decide +kernel
  rw [hload] at hnone
  have hdefault := MemoryStore.defaultTheme?_eq_none_iff.1 (Option.isNone_iff_eq_none.1 hnone)
  refine ⟨first, second, hfirst, done, hsecond, ?_⟩
  rw [hlost hdefault]
  exact Nat.one_ne_zero

end ThemedPages
