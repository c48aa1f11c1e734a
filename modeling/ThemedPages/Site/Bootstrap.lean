import ThemedPages.Site.Basic
import ThemedPages.Site.Config
import ThemedPages.Theme.Store.Snapshot

/-!
# Starting a site

A site is started from its configuration: the themes are loaded, the pages found, and all routes
checked. Nothing is loaded when the configuration cannot be used.
-/

namespace ThemedPages.Site

/-- Start a site that renders to a target. -/
def bootstrap (config : SiteConfig) (files : FileTree) (now : Instant) (target : StyleTarget) :
    Except Failure (Site MemoryStore) := do
  let (pages, storePath) ← config.paths files
  let store ← MemoryStore.load files storePath
  let site : Site MemoryStore :=
    { themes := { store, fallback := config.fallback }
      styles := { target, options := config.styles } }
  let start : SiteM MemoryStore Unit := do
    let _ ← discover files now pages
    let _ ← revalidate files now
  let (outcome, site) := start site
  outcome.map fun _ => site

end ThemedPages.Site
