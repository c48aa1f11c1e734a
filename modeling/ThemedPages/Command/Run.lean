import ThemedPages.Command.Arguments
import ThemedPages.Site.Bootstrap

/-!
# Running commands

What a command prints, the code it exits with, and the files it leaves. A command that fails
prints why to the error output: the failed step, and below it what led to that. It leaves all files
as they were.
-/

namespace ThemedPages

/-- What a run of a command leaves. -/
structure RunOutcome where
  code : Nat
  output : String
  errors : String
  files : FileTree
  deriving DecidableEq

/-! ## Failures -/

/-- Why a command failed: the step, and what led to it, the nearest cause first. -/
structure CommandFailure where
  step : String
  causes : List String := []
  deriving DecidableEq, Repr

/-- A step that failed for a reason. -/
def Failure.during (f : Failure) (step : String) : CommandFailure := ⟨step, f.message :: f.causes⟩

/-- A text of which every line but the first is indented. -/
def indentRest (indent text : String) : String := ("\n" ++ indent).intercalate (text.splitOn "\n")

/-- Causes as lines, numbered if there are several. -/
def causeLines (causes : List String) : List String :=
  match causes with
  | [cause] => ["    " ++ indentRest "    " cause]
  | causes => causes.mapIdx fun i cause =>
    String.ofList (List.replicate (5 - (toString i).length) ' ') ++ toString i ++ ": " ++
      indentRest "       " cause

/-- A failure as it is printed. -/
def CommandFailure.text (f : CommandFailure) : String :=
  "Error: " ++ f.step ++
    (if f.causes.isEmpty then ""
      else "\n\nCaused by:\n" ++ "\n".intercalate (causeLines f.causes)) ++
    "\n"

/-! ## Commands -/

/-- What a command does: it prints, it may change files, and it may fail. -/
abbrev CommandM := ExceptT CommandFailure (StateM (String × FileTree))

namespace CommandM

/-- Print a text. -/
def print (text : String) : CommandM Unit := modify fun s => (s.1 ++ text, s.2)

/-- The files as they are. -/
def files : CommandM FileTree := return (← get).2

/-- Go on unless a step failed. -/
def during (step : String) (outcome : Except Failure α) : CommandM α :=
  match outcome with
  | .ok x => return x
  | .error failure => throw (failure.during step)

end CommandM

open CommandM

/-- A site that renders to a document. -/
abbrev CommandSite := Site MemoryStore

/-- Start a site. -/
def startSite (config : SiteConfig) (now : Instant) : CommandM CommandSite := do
  during "start pagesmith runtime" (Site.bootstrap config (← files) now .emptyDocument)

/-- Save the themes of a site. -/
def saveThemes (config : SiteConfig) (site : CommandSite) : CommandM Unit := do
  let some path := config.store | throw ⟨"theme store path is not set", []⟩
  let files ← during ("save theme store '" ++ path ++ "'") (site.themes.store.save (← files) path)
  modify fun s => (s.1, files)

/-- Check a descriptor. -/
def runValidate (path : String) : CommandM Unit := do
  let d ← during ("parse descriptor '" ++ path ++ "'") (Descriptor.ofFile (← files) path)
  let report := d.validate
  if report.isValid then print (path ++ ": ok\n")
  else
    report.issues.forM fun issue => print (path ++ ": " ++ issue.text ++ "\n")
    throw ⟨toString report.issues.length ++ " violation(s)", []⟩

/-- A route as a line. -/
def routeLine (r : Route) : String :=
  "\t".intercalate [r.id, r.info.path, if r.isValid then "ok" else "disabled", r.info.title] ++ "\n"

/-- List all routes. -/
def runRoutes (config : SiteConfig) (now : Instant) : CommandM Unit := do
  let site ← startSite config now
  site.routes.all.forM fun r => print (routeLine r)

/-- Compose a page. -/
def runCompose (config : SiteConfig) (now : Instant) (page : String) (group : Option String) :
    CommandM Unit := do
  let site ← startSite config now
  let filter := (group.map ComponentFilter.group).getD .all
  match (Site.compose (← files) now page filter site).1 with
  | .ok (.page p) => print p.html
  | .ok (.notFound id reason) =>
    throw ⟨"page '" ++ id ++ "' not found (" ++ reason.name ++ ")", []⟩
  | .error failure =>
    match failure with
    | .parse _ | .validation _ => throw (failure.during ("page '" ++ page ++ "' is disabled"))
    | _ => throw (failure.during "compose page")

/-- A listing as lines. -/
def listingLines (l : ThemeListing) : List String :=
  ("\t".intercalate [l.theme.id, l.theme.name, l.theme.category.name] ++
      (if l.theme.isDefault then "\tdefault" else "") ++ "\n") ::
    l.variations.map fun v => "  " ++ v.id ++ "\t" ++ v.name ++ "\n"

/-- List all themes. -/
def runThemes (config : SiteConfig) (now : Instant) : CommandM Unit := do
  let site ← startSite config now
  let listings ← during "list themes" (ThemeEngine.listThemes .all site.themes).1
  listings.forM fun l => (listingLines l).forM print

/-- Assign a page to a theme or to a variation. -/
def runApply (config : SiteConfig) (now : Instant) (page theme : String) (isVariation : Bool) :
    CommandM Unit := do
  let site ← startSite config now
  let (outcome, site) := Site.applyTheme page theme isVariation site
  let applied ← during ("apply '" ++ theme ++ "' to '" ++ page ++ "'") outcome
  saveThemes config site
  print (page ++ ": " ++ applied.name ++ " (" ++ toString applied.properties.size ++
    " properties)\n")

/-- Remove the assignment of a page. -/
def runReset (config : SiteConfig) (now : Instant) (page : String) : CommandM Unit := do
  let site ← startSite config now
  let (outcome, site) := Site.resetTheme page site
  let theme ← during ("reset '" ++ page ++ "'") outcome
  saveThemes config site
  print (page ++ ": " ++ theme.name ++ "\n")

/-- Apply the themes of pages. -/
def showPages (site : CommandSite) : List String → CommandM CommandSite
  | [] => return site
  | page :: rest => do
    let (outcome, site) := Site.pageTheme page site
    let _ ← during ("resolve theme of '" ++ page ++ "'") outcome
    showPages site rest

/-- Print the stylesheet of a page. -/
def runCss (config : SiteConfig) (now : Instant) (page : String) : CommandM Unit := do
  let site ← showPages (← startSite config now) [page]
  print (stylesheet site.styles.target.elements)

/-- A site as something to refresh. -/
def siteTarget : RefreshTarget CommandSite Unit where
  round site :=
    let (outcome, site) := Site.refreshRound [] .byId site
    (outcome.isOk, site)
  edit _ site := site

/-- Keep the themes of pages fresh for some seconds, and print the stylesheet then. -/
def runWatch (config : SiteConfig) (now : Instant) (pages : List String) (seconds : Option Nat) :
    CommandM Unit := do
  let site ← showPages (← startSite config now) pages
  let (_, site) := runRefresh siteTarget config.interval (1000 * seconds.getD 0) [] site
  print (stylesheet site.styles.target.elements)

/-- Do what a command line asks for. -/
def Invocation.run (i : Invocation) (now : Instant) : CommandM Unit :=
  match i.command with
  | .validate path => runValidate path
  | .routes => runRoutes i.config now
  | .compose page group => runCompose i.config now page group
  | .themes => runThemes i.config now
  | .apply page theme isVariation => runApply i.config now page theme isVariation
  | .reset page => runReset i.config now page
  | .css page => runCss i.config now page
  | .watch pages seconds => runWatch i.config now pages seconds

/-- Run a command line. -/
def runCommandLine (valueOf? : String → Option String) (args : List String) (files : FileTree)
    (now : Instant) : RunOutcome :=
  match Invocation.ofArguments? valueOf? args with
  | none => ⟨2, "", "error: the command line cannot be read\n", files⟩
  | some i =>
    match i.run now ("", files) with
    | (.ok (), output, files) => ⟨0, output, "", files⟩
    | (.error failure, output, files) => ⟨1, output, failure.text, files⟩

end ThemedPages
