import ThemedPages.Yaml.Token

/-!
# YAML events

The structure of a document as a list of events: scalars, aliases, and the starts and ends of
sequences and mappings. A mapping's events are its keys and values in turn; what the text leaves
out is an empty plain scalar.

Tokens are read with a list of goals, the things that are expected next, the nearest first. A step
takes the first goal and answers with the events that it gives, the goals that replace it, and the
tokens that are left.
-/

namespace ThemedPages.Yaml

/-- The anchor and the tag in front of a node. -/
structure Properties where
  anchor : Option String := none
  tag : Option String := none
  deriving DecidableEq, Repr

/-- An event. -/
inductive Event
  | alias (name : String)
  | scalar (props : Properties) (text : String) (style : ScalarStyle)
  | sequenceStart (props : Properties)
  | sequenceEnd
  | mappingStart (props : Properties)
  | mappingEnd
  deriving DecidableEq, Repr

/-- What is expected next. -/
inductive Goal
  /-- A node. Blocks are allowed only outside of brackets, and a sequence at the indentation of
  its key only as a value or key of a block mapping. -/
  | node (block indentless : Bool)
  /-- Items of a block sequence, or its end. -/
  | blockItem
  /-- Items of a sequence at the indentation of its key. -/
  | indentlessItem
  /-- A key of a block mapping, or its end. -/
  | blockKey
  | blockValue
  /-- An item of a sequence in brackets, or its end. -/
  | flowItem (first : Bool)
  /-- The key of a pair that is an item of a sequence. -/
  | pairKey
  | pairValue
  | pairEnd
  /-- A key of a mapping in braces, or its end. -/
  | flowKey (first : Bool)
  | flowValue
  /-- The value of a key in braces that has none. -/
  | noValue
  deriving DecidableEq, Repr

/-- The outcome of a step. -/
abbrev Step := Option (List Event × List Goal × List Token)

/-- The scalar that stands where the text has nothing. -/
def Event.empty : Event := .scalar {} "" .plain

/-- The anchor and the tag in front of a node, in either order; `tags` gives the start of a tag
for its handle. -/
def properties? (tags : List (String × String)) (ts : List Token) :
    Option (Properties × List Token) := do
  let tag? (handle ending : String) : Option String :=
    if handle.isEmpty then some ending else (tags.lookup handle).map (· ++ ending)
  match ts with
  | .anchor a :: .tag h e :: rest => return ({ anchor := some a, tag := some (← tag? h e) }, rest)
  | .anchor a :: rest => return ({ anchor := some a }, rest)
  | .tag h e :: .anchor a :: rest => return ({ anchor := some a, tag := some (← tag? h e) }, rest)
  | .tag h e :: rest => return ({ tag := some (← tag? h e) }, rest)
  | rest => return ({}, rest)

/-- Read the start of a node. -/
def nodeStep (tags : List (String × String)) (block indentless : Bool) (ts : List Token) : Step :=
  match ts with
  | .alias name :: rest => some ([.alias name], [], rest)
  | _ => do
    let (props, ts) ← properties? tags ts
    let started (goal : Goal) (event : Event) (rest : List Token) : Step :=
      some ([event], [goal], rest)
    match ts with
    | .scalar text style :: rest => return ([.scalar props text style], [], rest)
    | .flowSequenceStart :: rest => started (.flowItem true) (.sequenceStart props) rest
    | .flowMappingStart :: rest => started (.flowKey true) (.mappingStart props) rest
    | .blockEntry :: _ =>
      if indentless then started .indentlessItem (.sequenceStart props) ts
      else if props == {} then none
      else return ([.scalar props "" .plain], [], ts)
    | .blockSequenceStart :: rest =>
      if block then started .blockItem (.sequenceStart props) rest
      else if props == {} then none
      else return ([.scalar props "" .plain], [], ts)
    | .blockMappingStart :: rest =>
      if block then started .blockKey (.mappingStart props) rest
      else if props == {} then none
      else return ([.scalar props "" .plain], [], ts)
    | _ => if props == {} then none else return ([.scalar props "" .plain], [], ts)

/-- A node, or an empty scalar if one of the given tokens, or the end, follows. -/
def nodeUnless (ends : List Token) (block indentless : Bool) (next : Goal) (ts : List Token) :
    Step :=
  if ts.head?.any (ends.contains ·) then some ([.empty], [next], ts)
  else some ([], [.node block indentless, next], ts)

/-- Read towards the first goal. -/
def goalStep (tags : List (String × String)) (goal : Goal) (ts : List Token) : Step :=
  match goal, ts with
  | .node block indentless, ts => nodeStep tags block indentless ts
  | .blockItem, .blockEntry :: rest =>
    nodeUnless [.blockEntry, .blockEnd] true false .blockItem rest
  | .blockItem, .blockEnd :: rest => some ([.sequenceEnd], [], rest)
  | .blockItem, _ => none
  | .indentlessItem, .blockEntry :: rest =>
    nodeUnless [.blockEntry, .key, .value, .blockEnd] true false .indentlessItem rest
  | .indentlessItem, ts => some ([.sequenceEnd], [], ts)
  | .blockKey, .key :: rest => nodeUnless [.key, .value, .blockEnd] true true .blockValue rest
  | .blockKey, .blockEnd :: rest => some ([.mappingEnd], [], rest)
  | .blockKey, _ => none
  | .blockValue, .value :: rest => nodeUnless [.key, .value, .blockEnd] true true .blockKey rest
  | .blockValue, ts => some ([.empty], [.blockKey], ts)
  | .flowItem _, .flowSequenceEnd :: rest => some ([.sequenceEnd], [], rest)
  | .flowItem false, .flowEntry :: rest =>
    match rest with
    | .flowSequenceEnd :: rest => some ([.sequenceEnd], [], rest)
    | .key :: rest => some ([.mappingStart {}], [.pairKey, .flowItem false], rest)
    | rest => some ([], [.node false false, .flowItem false], rest)
  | .flowItem false, _ => none
  | .flowItem true, .key :: rest => some ([.mappingStart {}], [.pairKey, .flowItem false], rest)
  | .flowItem true, ts => some ([], [.node false false, .flowItem false], ts)
  | .pairKey, .value :: rest | .pairKey, .flowEntry :: rest | .pairKey, .flowSequenceEnd :: rest =>
    some ([.empty], [.pairValue], rest)
  | .pairKey, ts => some ([], [.node false false, .pairValue], ts)
  | .pairValue, .value :: rest =>
    nodeUnless [.flowEntry, .flowSequenceEnd] false false .pairEnd rest
  | .pairValue, ts => some ([.empty], [.pairEnd], ts)
  | .pairEnd, ts => some ([.mappingEnd], [], ts)
  | .flowKey _, .flowMappingEnd :: rest => some ([.mappingEnd], [], rest)
  | .flowKey false, .flowEntry :: rest =>
    match rest with
    | .flowMappingEnd :: rest => some ([.mappingEnd], [], rest)
    | .key :: rest =>
      nodeUnless [.value, .flowEntry, .flowMappingEnd] false false .flowValue rest
    | rest => some ([], [.node false false, .noValue], rest)
  | .flowKey false, _ => none
  | .flowKey true, .key :: rest =>
    nodeUnless [.value, .flowEntry, .flowMappingEnd] false false .flowValue rest
  | .flowKey true, ts => some ([], [.node false false, .noValue], ts)
  | .flowValue, .value :: rest =>
    nodeUnless [.flowEntry, .flowMappingEnd] false false (.flowKey false) rest
  | .flowValue, ts => some ([.empty], [.flowKey false], ts)
  | .noValue, ts => some ([.empty], [.flowKey false], ts)

/-- Read until no goal is left. The events are given last first. -/
def runGoals (tags : List (String × String)) :
    Nat → List Event → List Goal → List Token → Option (List Event × List Token)
  | _, events, [], ts => some (events, ts)
  | 0, _, _ :: _, _ => none
  | fuel + 1, events, goal :: goals, ts =>
    match goalStep tags goal ts with
    | none => none
    | some (new, more, rest) => runGoals tags fuel (new.reverse ++ events) (more ++ goals) rest

/-- The directives at the start: the handles they define, and what follows. -/
def directives? : Bool → List (String × String) → List Token →
    Option (List (String × String) × List Token)
  | versioned, tags, .version major minor :: rest =>
    if versioned || major != 1 || (minor != 1 && minor != 2) then none
    else directives? true tags rest
  | versioned, tags, .tagHandle handle start :: rest =>
    if (tags.lookup handle).isSome then none
    else directives? versioned ((handle, start) :: tags) rest
  | _, tags, ts => some (tags, ts)

/-- The handles that are defined without a directive. -/
def standardTags : List (String × String) := [("!", "!"), ("!!", "tag:yaml.org,2002:")]

/-- The events of the only document; none if the text is empty. -/
def events? (ts : List Token) : Option (List Event) := do
  if ts.isEmpty then return []
  let (tags, rest) ← directives? false [] ts
  let hasDirectives := rest.length != ts.length
  let explicit := rest.head? == some .documentStart
  if hasDirectives && !explicit then none
  let content := if explicit then rest.tail else rest
  let (events, rest) ←
    if explicit && content.head?.all (fun t => t matches
        .version .. | .tagHandle .. | .documentStart | .documentEnd) then
      some ([.empty], content)
    else runGoals (tags ++ standardTags) (4 * content.length + 4) [] [.node true false] content
  if rest.all (· == .documentEnd) then some events.reverse else none

end ThemedPages.Yaml
