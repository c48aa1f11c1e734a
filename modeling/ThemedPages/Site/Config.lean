import ThemedPages.Files.Tree
import ThemedPages.Failure
import ThemedPages.Style.Injector
import ThemedPages.Text.Blank
import ThemedPages.Theme.Refresh

/-!
# Configuration of a site

Where a site finds its pages and its themes, how often it refreshes, and how it writes styles. The
first three may come from variables; a variable that is blank counts as not set.
-/

namespace ThemedPages

/-- The variable for the directory of pages. -/
def pagesVariable : String := "PAGESMITH_PAGES_DIR"

/-- The variable for the file with the themes. -/
def storeVariable : String := "PAGESMITH_THEME_STORE"

/-- The variable for the seconds between refreshes. -/
def refreshVariable : String := "PAGESMITH_REFRESH_SECS"

/-- What a site is started with. -/
structure SiteConfig where
  /-- The directory of pages. -/
  pages : Option String := none
  /-- The file with the themes. -/
  store : Option String := none
  /-- Milliseconds between refreshes. -/
  refresh : Option Nat := none
  styles : StyleOptions := {}
  /-- What is served when no theme can be resolved. -/
  fallback : Option ResolvedTheme := none
  deriving DecidableEq

/-- A natural number of at most 64 bits in decimal digits, with or without a plus sign. -/
def wholeNumber? (s : String) : Option Nat :=
  let digits := match s.toList with
    | '+' :: rest => rest
    | cs => cs
  if digits.isEmpty || !digits.all Char.isDigit then none
  else
    let n := digits.foldl (fun n c => 10 * n + (c.toNat - '0'.toNat)) 0
    if n < UInt64.size then some n else none

namespace SiteConfig

/-- The configuration that variables give. -/
def ofVariables (valueOf? : String → Option String) : Except Failure SiteConfig := do
  let given (name : String) : Option String := (valueOf? name).filter fun s => !Text.blank s
  let refresh ← match given refreshVariable with
    | none => pure none
    | some raw =>
      match wholeNumber? (Text.trim raw) with
      | some n => pure (some (1000 * n))
      | none => throw (.configuration (refreshVariable ++
          " must be a whole number of seconds, got '" ++ raw ++ "'"))
  return { pages := given pagesVariable, store := given storeVariable, refresh }

/-- Milliseconds between refreshes. -/
def interval (c : SiteConfig) : Nat := c.refresh.getD (1000 * defaultInterval)

/-- The directory of pages and the file with the themes, if they are there and refreshes are
apart. -/
def paths (c : SiteConfig) (files : FileTree) : Except Failure (String × String) := do
  let some pages := c.pages
    | throw (.configuration ("pages directory is not set (" ++ pagesVariable ++ ")"))
  if !files.isDirectory pages then
    throw (.configuration ("pages directory '" ++ pages ++ "' does not exist"))
  let some store := c.store
    | throw (.configuration ("theme store is not set (" ++ storeVariable ++ ")"))
  if !files.isFile store then
    throw (.configuration ("theme store '" ++ store ++ "' does not exist"))
  if c.refresh == some 0 then
    throw (.configuration "auto-refresh interval must be greater than zero")
  return (pages, store)

end SiteConfig

end ThemedPages
