import ThemedPages.Report

/-!
# Failures

Why an operation fails. Each failure keeps its cause apart from the text that is shown for it; the
text of a failed store request leaves its detail out.
-/

namespace ThemedPages

/-- What was looked for when nothing was found. -/
inductive EntityKind
  | page
  | theme
  | variation
  | defaultTheme
  | descriptor
  deriving DecidableEq, Repr

/-- The kind in a sentence. -/
def EntityKind.text : EntityKind → String
  | .page => "page"
  | .theme => "theme"
  | .variation => "theme variation"
  | .defaultTheme => "default theme"
  | .descriptor => "descriptor"

/-- Why an operation fails. -/
inductive Failure
  /-- A document is not readable as what it should be. -/
  | parse (message : String)
  /-- Data breaks rules. -/
  | validation (report : Report)
  /-- Nothing has the given id. -/
  | notFound (kind : EntityKind) (id : String)
  /-- A name is taken, or a record is protected. -/
  | conflict (message : String)
  /-- The theme store did not do what it was asked. -/
  | persistence (detail : String)
  /-- The configuration cannot be used. -/
  | configuration (message : String)
  /-- The style target did not take a style. -/
  | styleTarget (message : String)
  /-- Anything else, with what led to it, the nearest cause first. -/
  | other (message : String) (causes : List String)
  deriving DecidableEq, Repr

namespace Failure

/-- The word for the kind of a failure. -/
def kind : Failure → String
  | .parse _ => "parse"
  | .validation _ => "validation"
  | .notFound _ _ => "not_found"
  | .conflict _ => "conflict"
  | .persistence _ => "persistence"
  | .configuration _ => "configuration"
  | .styleTarget _ => "style_target"
  | .other _ _ => "other"

/-- The text that is shown for a failure. -/
def message : Failure → String
  | .parse m => "parse error: " ++ m
  | .validation r => "validation error: " ++ r.text
  | .notFound kind id => "not found: " ++ kind.text ++ " '" ++ id ++ "'"
  | .conflict m => "conflict: " ++ m
  | .persistence _ => "persistence error: the theme store could not complete the request"
  | .configuration m => "configuration error: " ++ m
  | .styleTarget m => "style target error: " ++ m
  | .other m _ => m

/-- The failures that led to this one, as far as they are shown apart from it. -/
def causes : Failure → List String
  | .other _ causes => causes
  | _ => []

/-- Whether nothing was found. -/
def isNotFound : Failure → Bool
  | .notFound _ _ => true
  | _ => false

end Failure

@[simp] theorem Except.bind_of_ok {ε α β : Type} (x : α) (f : α → Except ε β) :
    (Except.ok x >>= f) = f x := rfl

@[simp] theorem Except.bind_of_error {ε α β : Type} (failure : ε) (f : α → Except ε β) :
    (Except.error failure >>= f) = .error failure := rfl

/-- What succeeds has succeeded at each step. -/
theorem Except.exists_of_bind {ε α β : Type} {x : Except ε α} {f : α → Except ε β} {b : β}
    (h : (x >>= f) = .ok b) : ∃ a, x = .ok a ∧ f a = .ok b := by
  cases x with
  | error failure => nomatch h
  | ok a => exact ⟨a, rfl, h⟩

/-- The failure of data that breaks the listed rules, if there are any. -/
def Report.check (r : Report) : Except Failure Unit :=
  if r.isValid then .ok () else .error (.validation r)

end ThemedPages
