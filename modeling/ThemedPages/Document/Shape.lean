/-!
# Shapes

What a reader expects at a place of a document. A shape tells which fields of a record are read,
so that what stands under any other key only has to be well formed, and how a scalar without
quotes is to be understood where the format itself leaves that open.
-/

namespace ThemedPages

/-- What is expected at a place of a document. -/
inductive Shape
  /-- Nothing: the value is passed over. -/
  | skip
  /-- Any value, as free-form data. -/
  | any
  /-- Any value, as it stands: every object in it keeps all its fields. -/
  | whole
  /-- An object with any fields. -/
  | object
  /-- A text. -/
  | text
  /-- A boolean. -/
  | flag
  /-- An integer from zero up. -/
  | natural
  /-- An integer. -/
  | integer
  /-- A value or null. -/
  | optional (inner : Shape)
  /-- A list. -/
  | list (inner : Shape)
  /-- An object of which the named fields are read. -/
  | record (fields : List (String × Shape))
  /-- An object of which all fields are read: the named ones as what is expected of them, the
  others as they stand. -/
  | openRecord (fields : List (String × Shape))
  /-- An object with a content and a tag that tells what to expect of the content. What stands
  before the tag is not known yet, so it is read as it stands. -/
  | tagged (tag content : String) (inner : Shape)
  deriving Repr, Inhabited

namespace Shape

/-- What is expected of an item of a list; `index` counts from zero. A record may be given as the
list of its fields. -/
def item (s : Shape) (index : Nat) : Shape :=
  match s with
  | .skip => .skip
  | .optional inner => inner.item index
  | .list inner => inner
  | .record fields => (fields[index]?.map Prod.snd).getD .skip
  | .tagged _ _ inner => match index with
    | 0 => .whole
    | 1 => inner
    | _ => .skip
  | .whole => .whole
  | _ => .any

/-- What is expected under a key. -/
def field (s : Shape) (key : String) : Shape :=
  match s with
  | .skip => .skip
  | .optional inner => inner.field key
  | .record fields => (fields.lookup key).getD .skip
  | .openRecord fields => (fields.lookup key).getD .whole
  | .tagged tag content _ => if key == tag || key == content then .whole else .skip
  | .whole => .whole
  | _ => .any

/-- What is expected of the rest of an object after a field with the given key. -/
def after (s : Shape) (key : String) : Shape :=
  match s with
  | .optional inner => inner.after key
  | .tagged tag content inner =>
    if key == tag then .record [(tag, .whole), (content, inner)] else .tagged tag content inner
  | s => s

/-- Whether the fields of an object are kept as they stand, for a record, rather than put in key
order as free-form data. -/
def keepsFields : Shape → Bool
  | .optional inner => inner.keepsFields
  | .record _ | .openRecord _ | .tagged .. | .whole => true
  | _ => false

end Shape

end ThemedPages
