import ThemedPages.Document.Shape
import ThemedPages.Yaml.Node
import ThemedPages.Yaml.Scalar
import ThemedPages.Yaml.Token.Lexer

/-!
# Reading YAML text

A document is turned into a value under the guidance of a shape: where text is expected a scalar
stands for its own text, where a boolean or an integer is expected it has to be a plain scalar
that is one, and in free-form data a plain scalar stands for whatever it looks like.

Lists and objects may be nested at most 128 deep, and at most a hundred aliases per event are
followed, so that a short document cannot describe an endless one.
-/

namespace ThemedPages.Yaml

/-- The tag of a standard kind of scalar. -/
def standardTag (kind : String) : Option String := some ("tag:yaml.org,2002:" ++ kind)

/-- Whether a tag starts with an exclamation mark, as those do that a document makes up for
itself. -/
def isLocalTag (tag : Option String) : Bool := tag.any fun t => t.toList.head? == some '!'

/-- Whether a tag names something that a document made up for itself: it is local, and its octets
are a text. -/
def isOwnTag (tag : Option String) : Bool :=
  isLocalTag tag && tag.any fun t =>
    (String.fromUTF8? (t.toList.tail.map fun c => UInt8.ofNat c.toNat).toByteArray).isSome

/-- Whether a scalar may be a boolean or an integer: it is plain, or a block with the right
tag. -/
def mayBe (kind : String) (tag : Option String) (style : ScalarStyle) : Bool :=
  style == .plain || (style == .literal && tag == standardTag kind)

/-- The free-form value of a scalar. -/
def scalarValue? (tag : Option String) (text : String) (style : ScalarStyle) : Option Value :=
  if isOwnTag tag then none
  else if tag == standardTag "bool" then (bool? text).map .bool
  else if tag == standardTag "int" then (intValue? text).join
  else if tag == standardTag "float" then (float? text).map floatValue
  else if tag == standardTag "null" then if isNull text then some .null else none
  else if (tag.isNone || isLocalTag tag) && style == .plain then plainValue? text
  else some (.str text)

/-- Whether a scalar stands for nothing where a value may be absent; no answer if its tag says
null and its text does not. -/
def isAbsent? (tag : Option String) (text : String) (style : ScalarStyle) : Option Bool :=
  if style != .plain then some false
  else if tag.isNone then some (text.isEmpty || isNull text)
  else if tag == standardTag "null" then if isNull text then some true else none
  else some false

/-- What the shape makes of a node that is not an alias. `enter` reads the inside of a list or an
object, item by item. -/
def nodeValue? (enterList : Shape → List Node → StateT Nat Option (List Value))
    (enterFields : Shape → List Node → StateT Nat Option (List (String × Value)))
    (shape : Shape) (node : Node) : StateT Nat Option Value :=
  match shape with
  | .skip => return .null
  | .optional inner =>
    match node with
    | .scalar tag text style => do
      if ← isAbsent? tag text style then return .null
      nodeValue? enterList enterFields inner node
    | _ => nodeValue? enterList enterFields inner node
  | .any | .whole =>
    match node with
    | .alias _ => failure
    | .scalar tag text style => scalarValue? tag text style
    | .sequence tag items =>
      if isOwnTag tag then failure else return .arr (← enterList shape items)
    | .mapping tag sides =>
      if isOwnTag tag then failure
      else
        let object := if shape.keepsFields then Value.obj else Value.object
        return object (← enterFields shape sides)
  | .text =>
    match node with
    | .scalar _ text _ => return .str text
    | _ => failure
  | .flag =>
    match node with
    | .scalar tag text style =>
      if mayBe "bool" tag style then (bool? text).map .bool else failure
    | _ => failure
  | .natural =>
    match node with
    | .scalar tag text style =>
      if mayBe "int" tag style then (natural64? text).map .ofNat else failure
    | _ => failure
  | .integer =>
    match node with
    | .scalar tag text style =>
      if mayBe "int" tag style then (integer64? text).map .ofInt else failure
    | _ => failure
  | .list _ =>
    match node with
    | .sequence _ items => return .arr (← enterList shape items)
    | .scalar _ text style => if text.isEmpty && style == .plain then return .arr [] else failure
    | _ => failure
  | .object | .record _ | .openRecord _ | .tagged .. =>
    match node with
    | .mapping _ sides => do
      let fields ← enterFields shape sides
      return if shape.keepsFields then .obj fields else Value.object fields
    | .scalar _ text style => if text.isEmpty && style == .plain then return .obj [] else failure
    | _ => failure

namespace Graph

/-- Follow an alias; the state counts how many have been followed. -/
def follow (g : Graph) : Node → StateT Nat Option Node
  | .alias number => do
    modify (· + 1)
    if 100 * g.size < (← get) then failure
    match g.node? number with
    | some node => return node
    | none => failure
  | node => return node

/-- The text of a key. -/
def keyText (g : Graph) (node : Node) : StateT Nat Option String := do
  match ← g.follow node with
  | .scalar _ text _ => return text
  | _ => failure

/-- Each item as what the shape expects of it. -/
def listItems (read : Shape → Node → StateT Nat Option Value) (shape : Shape) :
    Nat → List Node → StateT Nat Option (List Value)
  | _, [] => return []
  | index, x :: rest => do
    let v ← read (shape.item index) x
    return v :: (← listItems read shape (index + 1) rest)

/-- Each key with what the shape expects under it. -/
def mapFields (g : Graph) (read : Shape → Node → StateT Nat Option Value) (shape : Shape) :
    List Node → StateT Nat Option (List (String × Value))
  | key :: x :: rest => do
    let k ← g.keyText key
    let v ← read (shape.field k) x
    return (k, v) :: (← mapFields g read (shape.after k) rest)
  | _ => return []

/-- What the shape makes of a node, with lists and objects nested at most `depth` deep. -/
def value? (g : Graph) : (depth : Nat) → Shape → Node → StateT Nat Option Value
  | 0, shape, node =>
    if shape matches .skip then return .null
    else do nodeValue? (fun _ _ => failure) (fun _ _ => failure) shape (← g.follow node)
  | depth + 1, shape, node =>
    if shape matches .skip then return .null
    else do
      nodeValue? (fun shape items => listItems (g.value? depth) shape 0 items)
        (fun shape sides => g.mapFields (g.value? depth) shape sides) shape (← g.follow node)

end Graph

/-- The value of the only document of a text, of which `shape` tells what counts. A text without a
document is an empty object. -/
def read? (shape : Shape) (s : String) : Option Value := do
  let events ← events? (← tokens? s)
  if events.isEmpty then return .obj []
  let g ← Graph.ofEvents? events
  (g.value? 128 shape g.root).run' 0

end ThemedPages.Yaml
