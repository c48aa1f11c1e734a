import ThemedPages.Proofs.Command.Applied
import ThemedPages.Proofs.Files.Frame

/-!
# What runs do to files

Two commands save: one applies a theme, the other removes the assignment of a page. Each starts a
site, changes it, and writes its themes last, to the file that they were loaded from. All other
commands leave the files to others.

**Theorem (`runs_keep_files`).** A run that fails leaves all files as they were, and so does one of
a command that does not save. A run that saves changes no file but the one that is configured for
the themes. Over any number of runs, a path leads to what it led to, unless it leads to a file to
which one of the runs saved.
-/

namespace ThemedPages

/-! ## Runs -/

/-- Whether a command saves themes when it succeeds. -/
def Command.saves : Command → Bool
  | .apply _ _ _ | .reset _ => true
  | _ => false

/-- A run of a command line, with the variables and the time that it finds. -/
structure CommandRun where
  valueOf? : String → Option String
  args : List String
  now : Instant

namespace CommandRun

/-- What the command line asks for, if it can be read. -/
def invocation? (run : CommandRun) : Option Invocation :=
  Invocation.ofArguments? run.valueOf? run.args

/-- What the run leaves. -/
def outcome (run : CommandRun) (files : FileTree) : RunOutcome :=
  runCommandLine run.valueOf? run.args files run.now

/-- The run succeeds, and its command saves themes to a path. -/
def SavesTo (run : CommandRun) (files : FileTree) (path : String) : Prop :=
  (run.outcome files).code = 0 ∧
    ∃ i, run.invocation? = some i ∧ i.command.saves = true ∧ i.config.store = some path

/-- The files after runs, one after the other. -/
def filesAfter (runs : List CommandRun) (files : FileTree) : FileTree :=
  runs.foldl (fun files run => (run.outcome files).files) files

end CommandRun

/-! ## Commands that only read -/

/-- A command leaves the files as they were, whatever comes of it. -/
def Reads {α : Type} (m : CommandM α) : Prop :=
  Moves (fun s s' : String × FileTree => s'.2 = s.2) m

section Reads

open CommandM

variable {α β : Type} {config : SiteConfig} {now : Instant}

theorem Reads.bind {m : CommandM α} {f : α → CommandM β} (hm : Reads m) (hf : ∀ a, Reads (f a)) :
    Reads (m >>= f) :=
  Moves.bind (fun hab hbc => hbc.trans hab) hm hf

theorem Reads.forM {f : α → CommandM PUnit} (hf : ∀ a, Reads (f a)) (as : List α) :
    Reads (as.forM f) :=
  Moves.forM (R := fun s s' : String × FileTree => s'.2 = s.2) (fun _ => rfl)
    (fun hab hbc => hbc.trans hab) hf as

theorem reads_pure (a : α) : Reads (pure a) := fun _ => rfl

theorem reads_throw (failure : CommandFailure) : Reads (throw failure : CommandM α) :=
  fun _ => rfl

theorem reads_print (text : String) : Reads (print text) := fun _ => rfl

theorem reads_files : Reads files := fun _ => rfl

theorem reads_during (step : String) (outcome : Except Failure α) :
    Reads (during step outcome) := by
  cases outcome <;> exact fun _ => rfl

theorem reads_startSite : Reads (startSite config now) :=
  reads_files.bind fun _ => reads_during _ _

theorem reads_validate (path : String) : Reads (runValidate path) := by
  refine reads_files.bind fun files => (reads_during _ _).bind fun d => ?_
  dsimp only
  split
  · exact reads_print _
  · exact (Reads.forM (fun issue => reads_print _) _).bind fun _ => reads_throw _

theorem reads_compose (page : String) (group : Option String) :
    Reads (runCompose config now page group) := by
  refine reads_startSite.bind fun site => reads_files.bind fun files => ?_
  split
  · exact reads_print _
  · exact reads_throw _
  · split <;> exact reads_throw _

theorem reads_themes : Reads (runThemes config now) :=
  reads_startSite.bind fun _ => (reads_during _ _).bind fun listings =>
    Reads.forM (fun _ => Reads.forM reads_print _) listings

theorem reads_showPages (pages : List String) (site : CommandSite) :
    Reads (showPages site pages) := by
  induction pages generalizing site with
  | nil => exact reads_pure site
  | cons page pages ih => exact (reads_during _ _).bind fun _ => ih _

/-- **Commands that do not save only read.** -/
theorem reads_run {i : Invocation} (h : i.command.saves = false) (now : Instant) :
    Reads (i.run now) := by
  unfold Invocation.run
  cases hcommand : i.command with
  | validate path => exact reads_validate path
  | routes => exact reads_startSite.bind fun site => Reads.forM (fun r => reads_print _) _
  | compose page group => exact reads_compose page group
  | themes => exact reads_themes
  | apply page theme isVariation => simp [hcommand, Command.saves] at h
  | reset page => simp [hcommand, Command.saves] at h
  | css page =>
    exact reads_startSite.bind fun site => (reads_showPages _ _).bind fun _ => reads_print _
  | watch pages seconds =>
    exact reads_startSite.bind fun site => (reads_showPages _ _).bind fun _ => reads_print _

end Reads

/-! ## Commands that save -/

section Saves

open CommandM

variable {config : SiteConfig} {now : Instant} {step : String} {s s' : String × FileTree}
  {failure : CommandFailure} {site : CommandSite}

theorem during_error {α : Type} {outcome : Except Failure α}
    (h : during step outcome s = (.error failure, s')) : s' = s := by
  cases outcome <;> cases h
  rfl

theorem saveThemes_error (h : saveThemes config site s = (.error failure, s')) : s' = s := by
  unfold saveThemes at h
  cases hstore : config.store with
  | none =>
    rw [hstore] at h
    cases h
    rfl
  | some path =>
    rw [hstore] at h
    rcases run_bind_eq_error_iff.1 h with hfiles | ⟨_, _, ⟨⟩, hwrite⟩
    · nomatch hfiles
    rcases run_bind_eq_error_iff.1 hwrite with hfailed | ⟨_, _, _, hkeep⟩
    · exact during_error hfailed
    · nomatch hkeep

/-- Nothing can fail once the themes are saved. -/
theorem changeSaved_error {α : Type} {change : SiteM MemoryStore α} {line : α → String}
    (h : changeSaved config now step change line s = (.error failure, s')) : s' = s := by
  rcases run_bind_eq_error_iff.1 h with hstart | ⟨site, _, hstart, hchange⟩
  · exact during_error hstart
  obtain ⟨-, rfl⟩ := during_ok hstart
  generalize change site = changed at hchange
  obtain ⟨outcome, next⟩ := changed
  rcases run_bind_eq_error_iff.1 hchange with hstep | ⟨a, _, hstep, hsave⟩
  · exact during_error hstep
  obtain ⟨-, rfl⟩ := during_ok hstep
  rcases run_bind_eq_error_iff.1 hsave with hfailed | ⟨_, _, _, hprint⟩
  · exact saveThemes_error hfailed
  · nomatch hprint

/-- What is saved goes to the file that the themes were loaded from, which was there. -/
theorem changeSaved_sameBut {α : Type} {change : SiteM MemoryStore α} {line : α → String}
    (h : changeSaved config now step change line s = (.ok (), s')) :
    ∃ path, config.store = some path ∧ s.2.SameBut path s'.2 := by
  obtain ⟨site, a, path, hsite, -, hpath, hsave⟩ := changeSaved_ok h
  obtain ⟨directory, path', store, hpaths, -, -⟩ := Site.exists_of_bootstrap hsite
  obtain ⟨-, ⟨hstore, hfile⟩, -⟩ := (config.paths_eq_ok_iff s.2 directory path').1 hpaths
  cases hpath.symm.trans hstore
  exact ⟨path, hpath, FileTree.sameBut_write (MemoryStore.save_eq_ok hsave) hfile⟩

/-- Both commands that save change a site and save its themes. -/
theorem run_eq_changeSaved {i : Invocation} (h : i.command.saves = true) (now : Instant) :
    ∃ (step : String) (change : SiteM MemoryStore ResolvedTheme) (line : ResolvedTheme → String),
      i.run now = changeSaved i.config now step change line := by
  unfold Invocation.run
  cases hcommand : i.command with
  | apply page theme isVariation => exact ⟨_, _, _, runApply_eq i.config now page theme isVariation⟩
  | reset page =>
    exact ⟨_, Site.resetTheme page, fun theme => page ++ ": " ++ theme.name ++ "\n", rfl⟩
  | _ => simp [hcommand, Command.saves] at h

end Saves

/-! ## Sequences of runs -/

namespace CommandRun

variable {run : CommandRun} {files : FileTree} {i : Invocation}

theorem outcome_of_unread (hi : run.invocation? = none) : run.outcome files =
    ⟨2, "", "error: the command line cannot be read\n", files⟩ := by
  rw [invocation?] at hi
  simp only [outcome, runCommandLine, hi]

theorem outcome_of_ok (hi : run.invocation? = some i) {output : String} {after : FileTree}
    (hrun : i.run run.now ("", files) = (.ok (), output, after)) :
    run.outcome files = ⟨0, output, "", after⟩ := by
  rw [invocation?] at hi
  simp only [outcome, runCommandLine, hi, hrun]

theorem outcome_of_error (hi : run.invocation? = some i) {failure : CommandFailure}
    {output : String} {after : FileTree}
    (hrun : i.run run.now ("", files) = (.error failure, output, after)) :
    run.outcome files = ⟨1, output, failure.text, after⟩ := by
  rw [invocation?] at hi
  simp only [outcome, runCommandLine, hi, hrun]

/-- **A run that does not save** leaves the files as they were. -/
theorem files_of_reads (hi : run.invocation? = some i) (h : i.command.saves = false) :
    (run.outcome files).files = files := by
  have hreads := reads_run h run.now ("", files)
  cases hrun : i.run run.now ("", files) with
  | mk result next =>
    obtain ⟨output, after⟩ := next
    rw [hrun] at hreads
    cases result with
    | ok u =>
      rw [outcome_of_ok hi hrun]
      exact hreads
    | error failure =>
      rw [outcome_of_error hi hrun]
      exact hreads

/-- **A run that fails** leaves the files as they were. -/
theorem files_of_failed (h : (run.outcome files).code ≠ 0) : (run.outcome files).files = files := by
  cases hi : run.invocation? with
  | none => rw [outcome_of_unread hi]
  | some i =>
    cases hsaves : i.command.saves with
    | false => exact files_of_reads hi hsaves
    | true =>
      obtain ⟨step, change, line, hsaved⟩ := run_eq_changeSaved hsaves run.now
      cases hrun : i.run run.now ("", files) with
      | mk result next =>
        obtain ⟨output, after⟩ := next
        cases result with
        | ok u =>
          rw [outcome_of_ok hi hrun] at h
          exact absurd rfl h
        | error failure =>
          rw [outcome_of_error hi hrun]
          rw [hsaved] at hrun
          exact congrArg Prod.snd (changeSaved_error hrun)

/-- **A run that saves** changes no file but that of the themes. -/
theorem sameBut_of_saves (hi : run.invocation? = some i) (h : i.command.saves = true)
    (done : (run.outcome files).code = 0) :
    ∃ path, i.config.store = some path ∧ files.SameBut path (run.outcome files).files := by
  obtain ⟨step, change, line, hsaved⟩ := run_eq_changeSaved h run.now
  have hdone := runCommandLine_done hi done
  rw [hsaved] at hdone
  exact changeSaved_sameBut hdone

/-- **What a run does to the files**: nothing, unless it saves themes. -/
theorem files_outcome (run : CommandRun) (files : FileTree) :
    (run.outcome files).files = files ∨
      ∃ path, run.SavesTo files path ∧ files.SameBut path (run.outcome files).files := by
  by_cases hcode : (run.outcome files).code = 0
  · cases hi : run.invocation? with
    | none =>
      rw [outcome_of_unread hi] at hcode
      nomatch hcode
    | some i =>
      cases hsaves : i.command.saves with
      | false => exact .inl (files_of_reads hi hsaves)
      | true =>
        obtain ⟨path, hpath, hsame⟩ := sameBut_of_saves hi hsaves hcode
        exact .inr ⟨path, ⟨hcode, i, hi, hsaves, hpath⟩, hsame⟩
  · exact .inl (files_of_failed hcode)

theorem resolve_outcome (run : CommandRun) (files : FileTree) (p : String) :
    (run.outcome files).files.resolve p = files.resolve p := by
  rcases run.files_outcome files with hsame | ⟨path, -, hsame⟩
  · rw [hsame]
  · exact hsame.resolve p

/-- **What runs do to the files.** -/
theorem find_filesAfter (runs : List CommandRun) (files : FileTree) (p : String)
    (apart : ∀ before run after path, runs = before ++ run :: after →
      run.SavesTo (filesAfter before files) path → files.resolve p ≠ files.resolve path) :
    (filesAfter runs files).find p = files.find p := by
  induction runs generalizing files with
  | nil => rfl
  | cons run runs ih =>
    have hrest : (filesAfter runs (run.outcome files).files).find p =
        (run.outcome files).files.find p := by
      apply ih
      intro before run' after path hruns hsaves
      rw [resolve_outcome, resolve_outcome]
      exact apart (run :: before) run' after path (by rw [hruns, List.cons_append]) hsaves
    refine hrest.trans ?_
    rcases run.files_outcome files with hsame | ⟨path, hsaves, hsame⟩
    · rw [hsame]
    · exact hsame.find p (apart [] run runs path rfl hsaves)

theorem names_filesAfter (runs : List CommandRun) (files : FileTree) (directory : String) :
    (filesAfter runs files).names directory = files.names directory := by
  induction runs generalizing files with
  | nil => rfl
  | cons run runs ih =>
    have hrest : (filesAfter runs (run.outcome files).files).names directory =
        (run.outcome files).files.names directory := ih _
    refine hrest.trans ?_
    rcases run.files_outcome files with hsame | ⟨path, -, hsame⟩
    · rw [hsame]
    · exact hsame.names directory

/-- **Commands change only what they promise.** -/
theorem runs_keep_files :
    (∀ (run : CommandRun) files outcome, run.outcome files = outcome →
      (outcome.code ≠ 0 → outcome.files = files) ∧
      ∀ i, run.invocation? = some i →
        (i.command.saves = false → outcome.files = files) ∧
        (i.command.saves = true → outcome.code = 0 →
          ∃ path, i.config.store = some path ∧ files.SameBut path outcome.files)) ∧
    ∀ (runs : List CommandRun) files final, filesAfter runs files = final →
      (∀ directory, final.names directory = files.names directory) ∧
      ∀ p, (∀ before run after path, runs = before ++ run :: after →
          run.SavesTo (filesAfter before files) path → files.resolve p ≠ files.resolve path) →
        final.find p = files.find p := by
  refine ⟨?_, ?_⟩
  · rintro run files _ rfl
    exact ⟨files_of_failed, fun i hi =>
      ⟨files_of_reads hi, fun hsaves done => sameBut_of_saves hi hsaves done⟩⟩
  · rintro runs files _ rfl
    exact ⟨names_filesAfter runs files, fun p apart => find_filesAfter runs files p apart⟩

/-- A working directory with a file beside the themes. -/
def withNotes : FileTree where
  entries := Table.ofList [("notes.txt", .text "keep"), ("pages", .directory),
    ("themes.json", .text paleTheme)]

/-- A run in this directory. -/
def inPages (command : List String) : CommandRun := ⟨fun _ => none, onPages command, ⟨0, 0⟩⟩

theorem invocation?_apply : (inPages ["apply", "home", "pale"]).invocation? =
    some ⟨pagesConfig, .apply "home" "pale" false⟩ := by decide +kernel

theorem runs_keep_files_withNotes :
    ((inPages ["apply", "home", "none"]).outcome withNotes).code ≠ 0 ∧
      ((inPages ["apply", "home", "none"]).outcome withNotes).files = withNotes ∧
      ((inPages ["apply", "home", "pale"]).outcome withNotes).code = 0 ∧
      withNotes.SameBut "themes.json"
        ((inPages ["apply", "home", "pale"]).outcome withNotes).files ∧
      (filesAfter [inPages ["apply", "home", "pale"], inPages ["css", "home"]] withNotes).find
        "notes.txt" = .ok (.text "keep") := by
  have hfailed : ((inPages ["apply", "home", "none"]).outcome withNotes).code ≠ 0 := by
    decide +kernel
  have hdone : ((inPages ["apply", "home", "pale"]).outcome withNotes).code = 0 := by
    decide +kernel
  have hnotes : withNotes.find "notes.txt" = .ok (.text "keep") := by decide +kernel
  refine ⟨hfailed, (runs_keep_files.1 _ withNotes _ rfl).1 hfailed, hdone, ?_, ?_⟩
  · obtain ⟨path, hpath, hsame⟩ :=
      ((runs_keep_files.1 _ withNotes _ rfl).2 _ invocation?_apply).2 rfl hdone
    cases hpath
    exact hsame
  rw [← hnotes]
  refine (runs_keep_files.2 _ withNotes _ rfl).2 "notes.txt" ?_
  rintro before run after path hruns ⟨-, i, hi, -, hpath⟩
  have hmem : run ∈ [inPages ["apply", "home", "pale"], inPages ["css", "home"]] := by
    rw [hruns]
    simp
  have hstore : i.config.store = some "themes.json" := by
    simp only [List.mem_cons, List.not_mem_nil, or_false] at hmem
    rcases hmem with rfl | rfl
    · cases invocation?_apply.symm.trans hi
      rfl
    · cases ofArguments?_css.symm.trans hi
      rfl
  cases hstore.symm.trans hpath
  decide +kernel

end CommandRun

end ThemedPages
