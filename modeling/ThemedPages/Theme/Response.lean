import ThemedPages.Document.Record
import ThemedPages.Document.Shape
import ThemedPages.Failure

/-!
# Responses of a store

A store answers every request to change something with a response: whether it was done, the record
that came of it, or why not. That a store cannot be reached at all is a failure, not a response.
-/

namespace ThemedPages

/-- Why a store did not do what it was asked. -/
inductive Refusal
  | notFound (kind : EntityKind) (id : String)
  | conflict (message : String)
  | rejected (message : String)
  deriving DecidableEq, Repr

/-- A response of a store. -/
structure StoreResponse (α : Type u) where
  success : Bool
  data : Option α := none
  error : Option Refusal := none
  deriving DecidableEq, Repr

namespace StoreResponse

/-- It was done, and this came of it. -/
def ok (x : α) : StoreResponse α := { success := true, data := some x }

/-- It was not done. -/
def fail (r : Refusal) : StoreResponse α := { success := false, error := some r }

/-- The record, or the failure; `what` names the request. -/
def result (r : StoreResponse α) (what : String) : Except Failure α :=
  if r.success then
    match r.data with
    | some x => .ok x
    | none => .error (.persistence (what ++ ": store reported success without data"))
  else .error <| match r.error with
    | some (.conflict m) => .conflict m
    | some (.notFound kind id) => .notFound kind id
    | some (.rejected m) => .persistence (what ++ ": rejected: " ++ m)
    | none => .persistence (what ++ ": failed without reason")

end StoreResponse

/-! ## Responses in documents -/

open Record

namespace EntityKind

/-- All kinds. -/
def all : List EntityKind := [.page, .theme, .variation, .defaultTheme, .descriptor]

/-- The word for a kind in a document. -/
def name : EntityKind → String
  | .page => "page"
  | .theme => "theme"
  | .variation => "variation"
  | .defaultTheme => "default_theme"
  | .descriptor => "descriptor"

/-- The kind as a value. -/
def toValue (k : EntityKind) : Value := .str k.name

/-- The kind with a name. -/
def ofName? (s : String) : Option EntityKind := all.find? fun k => k.name == s

/-- Read a kind. -/
def ofValue? : Value → Option EntityKind := word ofName?

end EntityKind

namespace Refusal

/-- A refusal as a value: a code, and a message or what was not found. -/
def toValue : Refusal → Value
  | .notFound kind id =>
    .obj [("code", .str "not_found"), ("message", .obj [("kind", kind.toValue), ("id", .str id)])]
  | .conflict m => .obj [("code", .str "conflict"), ("message", .str m)]
  | .rejected m => .obj [("code", .str "rejected"), ("message", .str m)]

/-- Read what was not found, which is always an object; `kind?` reads its kind. -/
def notFoundOfValue? (kind? : Value → Option EntityKind) : Value → Option Refusal
  | .obj content => do
    let f ← fields? ["kind", "id"] (.obj content)
    return .notFound (← required f "kind" kind?) (← required f "id" text)
  | _ => none

/-- Read a refusal. A message that stands before its code is read in a second pass, for which an
empty object counts as null under a kind. -/
def ofValue? (v : Value) : Option Refusal := do
  let f ← fields? ["code", "message"] v
  let kind? := if (f.head?.map Prod.fst) == some "message" then looseWord EntityKind.ofName?
    else EntityKind.ofValue?
  match ← required f "code" (word some) with
  | "not_found" => required f "message" (notFoundOfValue? kind?)
  | "conflict" => (required f "message" text).map .conflict
  | "rejected" => (required f "message" text).map .rejected
  | _ => none

/-- The parts that a refusal is read from. -/
def shape : Shape :=
  .tagged "code" "message" (.record [("kind", .whole), ("id", .text)])

end Refusal

/-- A response as a value; absent parts are left out. -/
def StoreResponse.toValue (encode : α → Value) (r : StoreResponse α) : Value :=
  .obj <| [("success", .bool r.success)] ++ given? "data" encode r.data ++
    given? "error" Refusal.toValue r.error

/-- Read a response. -/
def StoreResponse.ofValue? (decode : Value → Option α) (v : Value) : Option (StoreResponse α) := do
  let f ← fields? ["success", "data", "error"] v
  return {
    success := ← required f "success" flag
    data := ← optional f "data" decode
    error := ← optional f "error" Refusal.ofValue? }

/-- The parts that a response is read from. -/
def StoreResponse.shape (data : Shape) : Shape :=
  .record [("success", .flag), ("data", .optional data), ("error", .optional Refusal.shape)]

end ThemedPages
