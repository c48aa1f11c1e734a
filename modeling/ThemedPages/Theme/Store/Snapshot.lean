import ThemedPages.Files.Tree
import ThemedPages.Json.Reader
import ThemedPages.Json.Writer
import ThemedPages.Theme.Codec
import ThemedPages.Theme.Store.Memory

/-!
# Snapshots of a theme store

The contents of a store as lists, which is how they are kept in a file. A snapshot is accepted if
it has no theme or just one default theme, the names of its themes and of its variations are
distinct, every variation belongs to a theme, and every assignment of a variation says which.
-/

namespace ThemedPages

/-- The contents of a store. -/
structure StoreSnapshot where
  themes : List Theme := []
  variations : List Variation := []
  assignments : List Assignment := []
  deriving DecidableEq

namespace StoreSnapshot

open Record

/-- A snapshot as a value. -/
def toValue (s : StoreSnapshot) : Value :=
  .obj [("themes", .arr (s.themes.map Theme.toValue)),
    ("variations", .arr (s.variations.map Variation.toValue)),
    ("assignments", .arr (s.assignments.map Assignment.toValue))]

/-- Read a snapshot. -/
def ofValue? (v : Value) : Option StoreSnapshot := do
  let f ← fields? ["themes", "variations", "assignments"] v
  return {
    themes := ← withDefault f "themes" (list Theme.ofValue?) []
    variations := ← withDefault f "variations" (list Variation.ofValue?) []
    assignments := ← withDefault f "assignments" (list Assignment.ofValue?) [] }

/-- The parts that a snapshot is read from. -/
def shape : Shape :=
  .record [("themes", .list Theme.shape), ("variations", .list Variation.shape),
    ("assignments", .list Assignment.shape)]

end StoreSnapshot

namespace MemoryStore

/-- The contents of a store, each list by id. -/
def snapshot (s : MemoryStore) : StoreSnapshot :=
  ⟨s.themes.values, s.variations.values, s.assignments.values⟩

/-- Add a theme of a snapshot. -/
def loadTheme (s : MemoryStore) (t : Theme) : Except Failure MemoryStore :=
  if s.themes.values.any fun x => x.name == t.name then
    .error (.configuration ("theme snapshot has duplicate theme name '" ++ t.name ++ "'"))
  else .ok { s with themes := s.themes.insert t.id t }

/-- Add a variation of a snapshot. -/
def loadVariation (s : MemoryStore) (v : Variation) : Except Failure MemoryStore :=
  if !s.themes.contains v.parentId then
    .error (.configuration ("variation '" ++ v.id ++ "' has parent '" ++ v.parentId ++
      "' which is not a base theme"))
  else if s.variations.values.any fun x => x.name == v.name then
    .error (.configuration ("theme snapshot has duplicate variation name '" ++ v.name ++ "'"))
  else .ok { s with variations := s.variations.insert v.id v }

/-- Add an assignment of a snapshot. -/
def loadAssignment (s : MemoryStore) (a : Assignment) : Except Failure MemoryStore :=
  if a.target.isVariation && a.target.variationId.isNone then
    .error (.configuration ("assignment of page '" ++ a.pageId ++
      "' is a variation without theme_variation_id"))
  else .ok { s with assignments := s.assignments.insert a.pageId a }

/-- The store with the contents of a snapshot. -/
def ofSnapshot (s : StoreSnapshot) : Except Failure MemoryStore := do
  let defaults := (s.themes.filter Theme.isDefault).length
  if !s.themes.isEmpty && defaults != 1 then
    throw (.configuration ("theme snapshot must mark exactly one default theme, found " ++
      toString defaults))
  let store ← s.themes.foldlM loadTheme {}
  let store ← s.variations.foldlM loadVariation store
  s.assignments.foldlM loadAssignment store

/-- The store that a file holds a snapshot of. Where the snapshot is not read, the file may hold
bytes that are no text. -/
def load (files : FileTree) (path : String) : Except Failure MemoryStore :=
  match files.readLetters path with
  | .error fault => .error (.configuration ("read theme store '" ++ path ++ "': " ++ fault.text))
  | .ok letters =>
    match (Json.readLetters? StoreSnapshot.shape letters).bind StoreSnapshot.ofValue? with
    | none => .error (.configuration ("parse theme store '" ++ path ++ "': no snapshot"))
    | some s => ofSnapshot s

/-- The text of the file that holds the contents of a store. -/
def saveText (s : MemoryStore) : String := Json.writePretty s.snapshot.toValue

/-- Write the contents of a store to a file, on a disk without troubles. -/
def save (s : MemoryStore) (files : FileTree) (path : String) : Except Failure FileTree :=
  match files.write path s.saveText with
  | (.ok (), files) => .ok files
  | (.error fault, _) =>
    .error (.persistence ("write theme store '" ++ path ++ "': " ++ fault.text))

end MemoryStore

end ThemedPages
