import Std.Time.DateTime.Timestamp
import ThemedPages.Command.Run

/-!
# The command

Reads the files that a command line names, runs it on them, and writes back the themes if they
changed.
-/

namespace ThemedPages

/-- Add the file at a path to a tree, if there is one. -/
def addFile (t : FileTree) (path : String) : IO FileTree := do
  try
    return t.put path (.ofBytes (← IO.FS.readBinFile path))
  catch _ => return t

/-- Add a directory to a tree, and the descriptors of the pages in it. -/
def addPages (t : FileTree) (path : String) : IO FileTree := do
  let directory := (← IO.currentDir) / path
  if !(← directory.isDir) then return t
  let mut t := t.put path .directory
  for entry in ← directory.readDir do
    let home := Path.join path entry.fileName
    if ← entry.path.isDir then
      t ← addFile (t.put home .directory) (Path.join home descriptorName)
    else
      t ← addFile t home
  return t

/-- The files that a command line names. -/
def Invocation.readFiles (i : Invocation) : IO FileTree := do
  let mut t : FileTree := {}
  if let .validate path := i.command then t ← addFile t path
  if let some path := i.config.store then t ← addFile t path
  if let some path := i.config.pages then t ← addPages t path
  return t

/-- Write back the themes, if a command changed them. -/
def Invocation.writeFiles (i : Invocation) (before after : FileTree) : IO Unit := do
  let some path := i.config.store | return
  if before == after then return
  if let .ok text := after.read path then IO.FS.writeFile path text

/-- The time. -/
def readClock : IO Instant := do
  let time := (← Std.Time.Timestamp.now).toDurationSinceUnixEpoch
  return ⟨time.second.val, time.nano.val.toNat⟩

/-- Run a command line, and give its exit code. -/
def runCommand (args : List String) : IO Nat := do
  let environment ← [pagesVariable, storeVariable, refreshVariable].filterMapM fun name => do
    return (← IO.getEnv name).map fun value => (name, value)
  let valueOf? (name : String) : Option String := List.lookup name environment
  let invocation? := Invocation.ofArguments? valueOf? args
  let files ← match invocation? with
    | some i => i.readFiles
    | none => pure {}
  let outcome := runCommandLine valueOf? args files (← readClock)
  if let some i := invocation? then i.writeFiles files outcome.files
  IO.print outcome.output
  IO.eprint outcome.errors
  return outcome.code

end ThemedPages

/-- The command. -/
def main (args : List String) : IO UInt32 :=
  return UInt32.ofNat (← ThemedPages.runCommand args)
