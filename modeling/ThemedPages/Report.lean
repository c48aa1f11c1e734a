/-!
# Validation reports

A report lists every rule that a document breaks, each with the place of the offending value. It
is valid when it lists none.
-/

namespace ThemedPages

/-- One step from a value to a part of it. -/
inductive PathStep
  /-- A field that the format names. -/
  | field (name : String)
  /-- A key that the document chose. -/
  | key (name : String)
  /-- A place in a list, counted from zero. -/
  | index (i : Nat)
  deriving DecidableEq, Repr

/-- A broken rule and where it is broken. -/
structure Issue where
  /-- The steps from the document to the offending value. -/
  path : List PathStep
  /-- What is wrong. -/
  message : String
  deriving DecidableEq, Repr

/-- All broken rules, in document order. -/
structure Report where
  issues : List Issue
  deriving DecidableEq, Repr, Inhabited

/-- The written form of a step. -/
def PathStep.write : PathStep → String
  | .field name => "." ++ name
  | .key name => "[\"" ++ name ++ "\"]"
  | .index i => "[" ++ toString i ++ "]"

/-- A path from the whole document, which is written `$`. -/
def writePath (path : List PathStep) : String := "$" ++ String.join (path.map PathStep.write)

/-- The message, after its path when there is one. -/
def Issue.text (i : Issue) : String :=
  if i.path.isEmpty then i.message else writePath i.path ++ ": " ++ i.message

namespace Report

/-- Whether no rule is broken. -/
def isValid (r : Report) : Bool := r.issues.isEmpty

/-- The issues on lines of their own. -/
def text (r : Report) : String := "\n".intercalate (r.issues.map Issue.text)

/-- A report of one issue. -/
def single (path : List PathStep) (message : String) : Report := ⟨[⟨path, message⟩]⟩

end Report

end ThemedPages
