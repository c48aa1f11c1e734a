import ThemedPages.Descriptor.Validation
import ThemedPages.Descriptor.Yaml
import ThemedPages.Files.Tree

/-!
# Descriptor files

Reading, checking and writing descriptors on disk. A descriptor is written to a temporary file
beside its path, which is then put in the place of the old one, so that a reader never finds half
a document. Temporary names hold the number of the process and a number that it uses once.
-/

namespace ThemedPages

namespace Descriptor

/-- Read the descriptor at a path, without checking it. -/
def ofFile (files : FileTree) (path : String) : Except Failure Descriptor :=
  match files.read path with
  | .error .missing => .error (.notFound .descriptor path)
  | .error fault => .error (.parse ("read descriptor '" ++ path ++ "': " ++ fault.text))
  | .ok text =>
    match ofYaml text with
    | .ok d => .ok d
    | .error e => .error (.parse ("'" ++ path ++ "': " ++ e.message))

/-- Read the descriptor at a path and check it. -/
def load (files : FileTree) (path : String) : Except Failure Descriptor := do
  let d ← ofFile files path
  d.validate.check
  return d

end Descriptor

/-- What the name of a temporary file is made of. -/
structure TemporaryName where
  process : Nat
  number : Nat
  deriving DecidableEq, Repr

/-- The path of the temporary file beside a path. -/
def TemporaryName.beside (n : TemporaryName) (path : String) : String :=
  Path.withFileName path <| "." ++ (Path.fileName? path).getD "descriptor.yaml" ++ ".tmp-" ++
    toString n.process ++ "-" ++ toString n.number

/-- The temporary names of a process, one after the other. -/
structure TemporaryNames where
  process : Nat
  /-- The number of the next one; after the greatest number comes zero. -/
  next : UInt64 := 0
  deriving DecidableEq, Repr

/-- The next name, and the names after it. -/
def TemporaryNames.take (names : TemporaryNames) : TemporaryName × TemporaryNames :=
  (⟨names.process, names.next.toNat⟩, { names with next := names.next + 1 })

namespace Descriptor

/-- Write a text to a path by way of a temporary file, which is removed where this fails. -/
def replaceFile (files : FileTree) (path temporary text : String) (disk : DiskTroubles := {}) :
    Except Failure Unit × FileTree :=
  match files.write temporary text disk.onWrite with
  | (.error fault, files) =>
    (.error (.other ("write descriptor '" ++ temporary ++ "'") [fault.text]),
      (files.remove temporary).2)
  | (.ok (), files) =>
    match files.rename temporary path disk.onRename with
    | .error fault =>
      (.error (.other ("replace descriptor '" ++ path ++ "'") [fault.text]),
        (files.remove temporary).2)
    | .ok files => (.ok (), files)

/-- Write a descriptor to a path, with the time of its last change set to `now`. -/
def toFile (d : Descriptor) (files : FileTree) (path : String) (name : TemporaryName)
    (now : Instant) (disk : DiskTroubles := {}) : Except Failure Unit × FileTree :=
  replaceFile files path (name.beside path) (d.stamped now).toYaml disk

/-- Write a descriptor to a path by way of the next temporary file. Its name is used up, whatever
comes of it. -/
def write (d : Descriptor) (files : FileTree) (path : String) (names : TemporaryNames)
    (now : Instant) (disk : DiskTroubles := {}) :
    Except Failure Unit × FileTree × TemporaryNames :=
  let (name, names) := names.take
  let (outcome, files) := d.toFile files path name now disk
  (outcome, files, names)

end Descriptor

end ThemedPages
