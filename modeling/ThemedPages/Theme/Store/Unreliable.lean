import ThemedPages.Theme.Store.Memory

/-!
# A store that does not always answer

A store in memory in front of which answers may be planned, request by request: the next requests
of a kind are answered with what was planned for them, and only then by the store.
-/

namespace ThemedPages

/-- A planned answer. -/
inductive PlannedAnswer
  /-- Nothing is found. -/
  | missing
  /-- This is the assignment of the page. -/
  | row (a : Assignment)
  /-- The change is refused. -/
  | refusal (r : Refusal)
  /-- The change is not done, without a reason. -/
  | silent
  /-- The change is done, but nothing comes of it. -/
  | empty
  /-- The store cannot be reached. -/
  | unreachable
  deriving DecidableEq

/-- A store with planned answers. -/
structure UnreliableStore where
  memory : MemoryStore
  /-- The planned answers by the name of the request, each with the detail of its failure. -/
  plans : Table (List (PlannedAnswer × String)) := .empty

namespace UnreliableStore

/-- Plan the next answers to a request. -/
def plan (s : UnreliableStore) (request : String) (times : Nat) (answer : PlannedAnswer)
    (detail : String) : UnreliableStore :=
  let planned := (s.plans.get? request).getD []
  { s with plans := s.plans.insert request (planned ++ List.replicate times (answer, detail)) }

/-- How many answers are planned, by the name of the request. -/
def pending (s : UnreliableStore) : Table Nat :=
  (s.plans.filter fun _ planned => !planned.isEmpty).map List.length

/-- Answer a request as planned, or else from memory. -/
def answer (request : String) (fromPlan : PlannedAnswer → Option α)
    (fromMemory : StateM MemoryStore (Answer α)) : StateM UnreliableStore (Answer α) := fun s =>
  match s.plans.get? request with
  | some ((planned, detail) :: rest) =>
    let s := { s with plans := s.plans.insert request rest }
    match fromPlan planned with
    | some x => (.ok x, s)
    | none => (.error (.persistence detail), s)
  | _ =>
    let (a, memory) := fromMemory s.memory
    (a, { s with memory })

/-- The planned answer to a request for something that may be missing. -/
def lookup (nothing : α) : PlannedAnswer → Option α
  | .missing => some nothing
  | _ => none

/-- The planned answer to a request for an assignment. -/
def assignment : PlannedAnswer → Option (Option Assignment)
  | .missing => some none
  | .row a => some (some a)
  | _ => none

/-- The planned answer to a request for a change. -/
def response : PlannedAnswer → Option (StoreResponse α)
  | .refusal r => some (.fail r)
  | .silent => some { success := false }
  | .empty => some { success := true }
  | _ => none

instance : ThemeStore UnreliableStore where
  listThemes filter := answer "list_themes" (lookup []) (ThemeStore.listThemes filter)
  getTheme id := answer "get_theme" (lookup none) (ThemeStore.getTheme id)
  getDefaultTheme := answer "get_default_theme" (lookup none) ThemeStore.getDefaultTheme
  createTheme draft := answer "create_theme" response (ThemeStore.createTheme draft)
  updateTheme id patch := answer "update_theme" response (ThemeStore.updateTheme id patch)
  deleteTheme id := answer "delete_theme" response (ThemeStore.deleteTheme id)
  setDefaultTheme id := answer "set_default_theme" response (ThemeStore.setDefaultTheme id)
  listVariations filter :=
    answer "list_variations" (lookup []) (ThemeStore.listVariations filter)
  getVariation id := answer "get_variation" (lookup none) (ThemeStore.getVariation id)
  createVariation parentId draft :=
    answer "create_variation" response (ThemeStore.createVariation parentId draft)
  getAssignment page := answer "get_page_assignment" assignment (ThemeStore.getAssignment page)
  assign page target :=
    answer "upsert_page_assignment" response (ThemeStore.assign page target)
  deleteAssignment page :=
    answer "delete_page_assignment" response (ThemeStore.deleteAssignment page)

end UnreliableStore

end ThemedPages
