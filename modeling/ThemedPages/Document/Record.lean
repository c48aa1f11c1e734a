import ThemedPages.Document.Value
import ThemedPages.Time.Instant

/-!
# Records in documents

A record stands in a document as an object, or as the list of its fields in order. Unknown fields
are passed over. A known field that stands twice is refused. A field may be required, may be
absent or null, or may have a default that counts only when the field is absent.
-/

namespace ThemedPages.Record

/-- The known fields of a record value. -/
def fields? (names : List String) : Value → Option (List (String × Value))
  | .obj fields =>
    let known := fields.filter fun f => names.contains f.1
    if (known.map Prod.fst).Nodup then some known else none
  | .arr items => if items.length ≤ names.length then some (names.zip items) else none
  | _ => none

/-- A field that has to be there. -/
def required (fields : List (String × Value)) (name : String) (decode : Value → Option α) :
    Option α :=
  (fields.lookup name).bind decode

/-- A field that may be absent or null. -/
def optional (fields : List (String × Value)) (name : String) (decode : Value → Option α) :
    Option (Option α) :=
  match fields.lookup name with
  | none | some .null => some none
  | some v => (decode v).map some

/-- A field that may be absent, but not null. -/
def withDefault (fields : List (String × Value)) (name : String) (decode : Value → Option α)
    (default : α) : Option α :=
  match fields.lookup name with
  | none => some default
  | some v => decode v

/-! ## Fields of one kind -/

/-- A text. -/
def text : Value → Option String := Value.text?

/-- A boolean. -/
def flag : Value → Option Bool
  | .bool b => some b
  | _ => none

/-- An integer. -/
def integer : Value → Option Int
  | .num (.int i) => some i
  | _ => none

/-- An integer of 32 bits without a sign. -/
def word32 (v : Value) : Option UInt32 := do
  let i ← integer v
  if 0 ≤ i && i < UInt32.size then some (UInt32.ofNat i.toNat) else none

/-- An integer of 64 bits without a sign. -/
def word64 (v : Value) : Option UInt64 := do
  let i ← integer v
  if 0 ≤ i && i < UInt64.size then some (UInt64.ofNat i.toNat) else none

/-- An integer of 64 bits with a sign. -/
def int64 (v : Value) : Option Int64 := do
  let i ← integer v
  if Int64.minValue.toInt ≤ i && i ≤ Int64.maxValue.toInt then some (Int64.ofInt i) else none

/-- A point in time. -/
def instant (v : Value) : Option Instant := v.text?.bind Instant.ofText?

/-- A list. -/
def list (decode : Value → Option α) : Value → Option (List α)
  | .arr items => items.mapM decode
  | _ => none

/-- An object with any fields. -/
def object : Value → Option (Table Value)
  | .obj fields => some (Table.ofList fields)
  | _ => none

/-- An object of texts. -/
def texts : Value → Option (Table String)
  | .obj fields => (fields.mapM fun f => (text f.2).map fun s => (f.1, s)).map Table.ofList
  | _ => none

/-- One of some words, which may also stand as the only key of an object, with null under it. -/
def word (decode : String → Option α) : Value → Option α
  | .str s => decode s
  | .obj [(s, .null)] => decode s
  | _ => none

/-- One of some words, or an object as with `word`, where an empty object counts as null. -/
def looseWord (decode : String → Option α) : Value → Option α
  | .obj [(s, .obj [])] => decode s
  | v => word decode v

/-! ## Writing fields -/

/-- A field that is left out when it has no value. -/
def given? (name : String) (encode : α → Value) : Option α → List (String × Value)
  | some x => [(name, encode x)]
  | none => []

/-- A field that is null when it has no value. -/
def orNull (name : String) (encode : α → Value) (x : Option α) : List (String × Value) :=
  [(name, (x.map encode).getD .null)]

/-- A list that is left out when it has no items. -/
def nonEmpty (name : String) (encode : α → Value) : List α → List (String × Value)
  | [] => []
  | xs => [(name, .arr (xs.map encode))]

end ThemedPages.Record
