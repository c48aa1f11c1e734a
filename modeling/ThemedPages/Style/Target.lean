import ThemedPages.Failure
import ThemedPages.Style.Element

/-!
# Style targets

Where style elements go. A document holds them in the order in which they were added. A recording
holds them too, and keeps what was asked of it; a detached one cannot be rendered to, and refuses
elements.
-/

namespace ThemedPages

/-- Something that was asked of a recording. -/
inductive StyleOperation
  | insert (e : StyleElement)
  | remove (id : String)
  deriving DecidableEq, Repr

/-- Where style elements go. -/
inductive StyleTarget
  | document (elements : List StyleElement)
  | recording (elements : List StyleElement) (operations : List StyleOperation) (detached : Bool)
  deriving DecidableEq, Repr

namespace StyleTarget

/-- A document without elements. -/
def emptyDocument : StyleTarget := .document []

/-- A recording without elements. -/
def emptyRecording : StyleTarget := .recording [] [] false

/-- A detached recording. -/
def detachedRecording : StyleTarget := .recording [] [] true

/-- The elements that are there, in the order in which they were added. -/
def elements : StyleTarget → List StyleElement
  | .document es => es
  | .recording es _ _ => es

/-- What was asked of a recording, the first thing first. -/
def operations : StyleTarget → List StyleOperation
  | .document _ => []
  | .recording _ ops _ => ops

/-- Whether there is anything to render to. -/
def isAvailable : StyleTarget → Bool
  | .document _ => true
  | .recording _ _ detached => !detached

/-- Add an element after all others. -/
def insert (t : StyleTarget) (e : StyleElement) : Except Failure StyleTarget :=
  match t with
  | .document es => .ok (.document (es ++ [e]))
  | .recording es ops detached =>
    if detached then .error (.styleTarget "snapshot target is detached")
    else .ok (.recording (es ++ [e]) (ops ++ [.insert e]) detached)

/-- Whether an element with an id is there. -/
def contains (t : StyleTarget) (id : String) : Bool := t.elements.any fun e => e.id == id

/-- Remove the elements with an id. -/
def remove (t : StyleTarget) (id : String) : StyleTarget :=
  match t with
  | .document es => .document (es.filter fun e => e.id != id)
  | .recording es ops detached =>
    .recording (es.filter fun e => e.id != id) (ops ++ [.remove id]) detached

/-- The element with an id. -/
def element? (t : StyleTarget) (id : String) : Option StyleElement :=
  t.elements.find? fun e => e.id == id

end StyleTarget

end ThemedPages
