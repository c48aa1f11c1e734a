import ThemedPages.Files.Path
import ThemedPages.Table
import ThemedPages.Text.Letters

/-!
# File trees

The files and directories below a working directory, as a value. A path is resolved part by part,
and each part but the last has to lead to a directory. Files hold text, or bytes that are none. The
same goes for names; but a path is text, so none leads to an entry of which the name is not.

A disk does not take every write. One that breaks off has created or emptied the file, and leaves
the bytes that it came to. A file is renamed at once or not at all, and a file that is there can be
removed.
-/

namespace ThemedPages

/-- Why a file or a directory does not do what was asked for. -/
inductive FileFault
  | missing
  | notDirectory
  | isDirectory
  | nameTooLong
  | nullInName
  | notText
  /-- What else the system reports, in its words. -/
  | system (message : String)
  deriving DecidableEq, Repr

/-- The fault in words. -/
def FileFault.text : FileFault → String
  | .missing => "No such file or directory (os error 2)"
  | .notDirectory => "Not a directory (os error 20)"
  | .isDirectory => "Is a directory (os error 21)"
  | .nameTooLong => "File name too long (os error 36)"
  | .nullInName => "file name contained an unexpected NUL byte"
  | .notText => "stream did not contain valid UTF-8"
  | .system message => message

/-- What keeps a disk from taking a write to a place where a file can stand. -/
inductive WriteTrouble
  /-- The file is not opened, so nothing happens to it. -/
  | unopened (fault : FileFault)
  /-- The file is created or emptied, and takes no more than its first bytes. -/
  | brokenOff (taken : Nat) (fault : FileFault)
  deriving DecidableEq, Repr

/-- What goes wrong on a disk while a file is written and then renamed. -/
structure DiskTroubles where
  onWrite : Option WriteTrouble := none
  onRename : Option FileFault := none
  deriving DecidableEq, Repr

/-- What stands under a name. -/
inductive FileEntry
  | text (content : String)
  /-- A file of which the bytes are no text. -/
  | binary (bytes : List UInt8)
  | directory
  deriving DecidableEq, Repr

/-- A file that holds bytes. -/
def FileEntry.ofBytes (bytes : ByteArray) : FileEntry :=
  match String.fromUTF8? bytes with
  | some s => .text s
  | none => .binary bytes.toList

/-- A file that holds the first bytes of a text. -/
def FileEntry.beginning (content : String) (taken : Nat) : FileEntry :=
  .ofBytes (content.toUTF8.extract 0 taken)

/-- Whether it is a file. -/
def FileEntry.isFile (e : FileEntry) : Bool := e != .directory

/-- The name of an entry of a directory. -/
inductive EntryName
  | text (name : String)
  /-- Bytes that are no text. -/
  | binary (bytes : List UInt8)
  deriving DecidableEq, Repr

/-- The name, if it is text. -/
def EntryName.text? : EntryName → Option String
  | .text name => some name
  | .binary _ => none

/-- Files and directories by their resolved paths. -/
structure FileTree where
  entries : Table FileEntry := .empty
  /-- The names that are no text, by the resolved path of the directory that holds them. -/
  binaryNames : Table (List (List UInt8)) := .empty
  deriving DecidableEq

namespace FileTree

/-- A resolved path as text. -/
def key (place : List String) : String := "/".intercalate place

/-- What stands at a resolved path; the working directory is always there. -/
def entry? (t : FileTree) (place : List String) : Option FileEntry :=
  if place.isEmpty then some .directory else t.entries.get? (key place)

/-- Go on from a place along the parts of a path. -/
def walk (t : FileTree) (place : List String) : List String → Except FileFault (List String)
  | [] => .ok place
  | piece :: rest =>
    match t.entry? place with
    | none => .error .missing
    | some .directory =>
      if Path.isVoid piece then t.walk place rest
      else if piece == ".." then t.walk place.dropLast rest
      else if 255 < piece.utf8ByteSize then .error .nameTooLong
      else t.walk (place ++ [piece]) rest
    | some _ => .error .notDirectory

/-- The place that a path leads to; nothing has to be there yet. -/
def resolve (t : FileTree) (path : String) : Except FileFault (List String) :=
  if path.toList.contains '\x00' then .error .nullInName
  else if path.isEmpty then .error .missing
  else if 4096 ≤ path.utf8ByteSize then .error .nameTooLong
  else t.walk [] (Path.pieces path)

/-- What a path leads to. -/
def find (t : FileTree) (path : String) : Except FileFault FileEntry := do
  match t.entry? (← t.resolve path) with
  | some e => return e
  | none => throw .missing

/-- Whether a path leads to anything. -/
def exists? (t : FileTree) (path : String) : Bool := (t.find path).isOk

/-- Whether a path leads to a directory. -/
def isDirectory (t : FileTree) (path : String) : Bool := t.find path matches .ok .directory

/-- Whether a path leads to a file. -/
def isFile (t : FileTree) (path : String) : Bool :=
  match t.find path with
  | .ok e => e.isFile
  | .error _ => false

/-- The text of a file. -/
def read (t : FileTree) (path : String) : Except FileFault String := do
  match ← t.find path with
  | .text content => return content
  | .binary _ => throw .notText
  | .directory => throw .isDirectory

/-- What a file holds, as letters. -/
def readLetters (t : FileTree) (path : String) : Except FileFault (List Text.Letter) := do
  match ← t.find path with
  | .text content => return Text.letters content
  | .binary bytes => return Text.lettersOfBytes bytes
  | .directory => throw .isDirectory

/-- Give a file a text, whether or not it was there, and say what came of it. Where there is trouble
the file keeps what it has taken. -/
def write (t : FileTree) (path content : String) (trouble : Option WriteTrouble := none) :
    Except FileFault Unit × FileTree :=
  match t.resolve path with
  | .error fault => (.error fault, t)
  | .ok place =>
    if t.entry? place == some .directory then (.error .isDirectory, t)
    else match trouble with
      | none => (.ok (), { t with entries := t.entries.insert (key place) (.text content) })
      | some (.unopened fault) => (.error fault, t)
      | some (.brokenOff taken fault) =>
        (.error fault, { t with entries := t.entries.insert (key place) (.beginning content taken) })

/-- Put a file in the place of another file, or where there is none. Where there is trouble both
stay as they are. -/
def rename (t : FileTree) (source target : String) (trouble : Option FileFault := none) :
    Except FileFault FileTree := do
  let place ← t.resolve source
  match t.entry? place with
  | none => throw .missing
  | some .directory => throw .isDirectory
  | some e =>
    let goal ← t.resolve target
    if t.entry? goal == some .directory then throw .isDirectory
    match trouble with
    | some fault => throw fault
    | none => return { t with entries := (t.entries.erase (key place)).insert (key goal) e }

/-- Remove a file, if it is there. -/
def remove (t : FileTree) (path : String) : Bool × FileTree :=
  match t.resolve path with
  | .error _ => (false, t)
  | .ok place =>
    match t.entry? place with
    | none | some .directory => (false, t)
    | some _ => (true, { t with entries := t.entries.erase (key place) })

/-- The name of an entry that stands right in a directory. -/
def nameIn? (place : List String) (path : String) : Option String :=
  let pieces := Path.pieces path
  if pieces.dropLast == place then pieces.getLast? else none

/-- The names in a directory: first those that are text, ascending. -/
def names (t : FileTree) (path : String) : Except FileFault (List EntryName) := do
  let place ← t.resolve path
  match t.entry? place with
  | none => throw .missing
  | some .directory =>
    return (t.entries.keys.filterMap (nameIn? place)).map .text ++
      ((t.binaryNames.get? (key place)).getD []).map .binary
  | some _ => throw .notDirectory

/-- The names in a directory that are text, ascending. -/
def list (t : FileTree) (path : String) : Except FileFault (List String) := do
  return (← t.names path).filterMap EntryName.text?

/-- Add what stands at a path, and the directories on the way to it. -/
def put (t : FileTree) (path : String) (e : FileEntry) : FileTree :=
  let place := Path.place path
  let parents := (List.range place.length).map place.take
  let add (t : FileTree) (parent : List String) : FileTree :=
    if (t.entry? parent).isSome then t
    else { t with entries := t.entries.insert (key parent) .directory }
  let t' := parents.foldl add t
  if place.isEmpty then t else { t' with entries := t'.entries.insert (key place) e }

end FileTree

end ThemedPages
