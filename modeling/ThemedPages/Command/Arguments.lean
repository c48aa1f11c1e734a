import ThemedPages.Site.Config

/-!
# Command lines

What a command line asks for. Options may stand before or after the command's name; the later place
counts. An option that stands at neither place, or only at one, is looked up as a variable for the
other, and has to be readable there too.

`Invocation.ofArguments?` gives nothing for a command line that cannot be read.
-/

namespace ThemedPages

/-- A command. -/
inductive Command
  | validate (path : String)
  | routes
  | compose (page : String) (group : Option String)
  | themes
  | apply (page theme : String) (isVariation : Bool)
  | reset (page : String)
  | css (page : String)
  | watch (pages : List String) (seconds : Option Nat)
  deriving DecidableEq, Repr

/-- What a command line asks for. -/
structure Invocation where
  config : SiteConfig
  command : Command
  deriving DecidableEq

namespace Arguments

/-! ## Options and operands -/

/-- What stands on one side of a command's name. -/
structure Parsed where
  /-- Options with their values, the last first. -/
  options : List (String × String) := []
  /-- Options without a value. -/
  flags : List String := []
  /-- Everything else, the last first. -/
  operands : List String := []
  deriving DecidableEq, Repr

/-- Which options there are. -/
structure Known where
  options : List String
  flags : List String := []

/-- Whether an argument may be the value of the option before it. -/
def isValue (arg : String) : Bool := arg == "-" || !arg.startsWith "-"

/-- Add an option, which may stand once. -/
def Parsed.addOption (p : Parsed) (name value : String) : Option Parsed :=
  if (p.options.lookup name).isSome then none
  else some { p with options := (name, value) :: p.options }

/-- Add an option without a value, which may stand once. -/
def Parsed.addFlag (p : Parsed) (name : String) : Option Parsed :=
  if p.flags.contains name then none else some { p with flags := name :: p.flags }

/-- The name of an option and the value that is attached to it by an equals sign. -/
def splitOption (arg : String) : String × Option String :=
  let cs := arg.toList
  let name := cs.takeWhile (· != '=')
  (String.ofList (name.drop 2),
    if name.length = cs.length then none else some (String.ofList (cs.drop (name.length + 1))))

/-- Read arguments up to the end, or up to the first operand if `untilOperand`; `onlyOperands` is
set after two hyphens. Gives what was read and what is left. -/
def parse? (known : Known) (untilOperand : Bool) :
    (onlyOperands : Bool) → Parsed → List String → Option (Parsed × List String)
  | _, p, [] => some (p, [])
  | true, p, arg :: rest =>
    parse? known untilOperand true { p with operands := arg :: p.operands } rest
  | false, p, [arg] =>
    if arg == "--" then some (p, [])
    else if arg.startsWith "--" then
      match splitOption arg with
      | (name, some value) =>
        if known.options.contains name then (p.addOption name value).map (·, []) else none
      | (name, none) => if known.flags.contains name then (p.addFlag name).map (·, []) else none
    else if !isValue arg then none
    else if untilOperand then some (p, [arg])
    else some ({ p with operands := arg :: p.operands }, [])
  | false, p, arg :: next :: rest =>
    if arg == "--" then
      if untilOperand then none else parse? known untilOperand true p (next :: rest)
    else if arg.startsWith "--" then
      match splitOption arg with
      | (name, some value) =>
        if known.options.contains name then
          (p.addOption name value).bind fun p => parse? known untilOperand false p (next :: rest)
        else none
      | (name, none) =>
        if known.flags.contains name then
          (p.addFlag name).bind fun p => parse? known untilOperand false p (next :: rest)
        else if known.options.contains name && isValue next then
          (p.addOption name next).bind fun p => parse? known untilOperand false p rest
        else none
    else if !isValue arg then none
    else if untilOperand then some (p, arg :: next :: rest)
    else parse? known untilOperand false { p with operands := arg :: p.operands } (next :: rest)

/-! ## Options of all commands -/

/-- The options of all commands. -/
def common : List String := ["pages-dir", "theme-store", "refresh-secs"]

/-- A path, which is not empty. -/
def path? (s : String) : Option String := if s.isEmpty then none else some s

/-- The value of a common option. It has to be readable wherever it is given, and for each place
where it is not, as a variable. -/
def commonValue? (read : String → Option α) (fromVariable? : Option String)
    (before? after? : Option String) : Option (Option α) := do
  let readAt (given? : Option String) : Option (Option α) :=
    match given? <|> fromVariable? with
    | some raw => (read raw).map some
    | none => some none
  let before ← readAt before?
  let after ← readAt after?
  return if after?.isSome then after else before

/-- The configuration from the common options. -/
def config? (valueOf? : String → Option String) (before after : Parsed) : Option SiteConfig := do
  let value {α : Type} (read : String → Option α) (option name : String) : Option (Option α) :=
    commonValue? read (valueOf? name) (before.options.lookup option) (after.options.lookup option)
  let pages ← value path? "pages-dir" pagesVariable
  let store ← value path? "theme-store" storeVariable
  let refresh ← value wholeNumber? "refresh-secs" refreshVariable
  return { pages, store, refresh := refresh.map (1000 * ·) }

/-! ## Commands -/

/-- The options of a command beside the common ones; nothing if there is no such command. -/
def known? (name : String) : Option Known :=
  match name with
  | "validate" | "routes" | "themes" | "reset" | "css" => some { options := common }
  | "compose" => some { options := "group" :: common }
  | "apply" => some { options := common, flags := ["variation"] }
  | "watch" => some { options := "for-secs" :: common }
  | _ => none

/-- The command with a name, from what stands after the name. -/
def command? (name : String) (p : Parsed) : Option Command :=
  match name, p.operands.reverse with
  | "validate", [path] => (path? path).map .validate
  | "routes", [] => some .routes
  | "themes", [] => some .themes
  | "compose", [page] => some (.compose page (p.options.lookup "group"))
  | "apply", [page, theme] => some (.apply page theme (p.flags.contains "variation"))
  | "reset", [page] => some (.reset page)
  | "css", [page] => some (.css page)
  | "watch", page :: pages =>
    match p.options.lookup "for-secs" with
    | none => some (.watch (page :: pages) none)
    | some raw => (wholeNumber? raw).map fun n => .watch (page :: pages) (some n)
  | _, _ => none

end Arguments

/-- What a command line asks for, given the variables that are set. -/
def Invocation.ofArguments? (valueOf? : String → Option String) (args : List String) :
    Option Invocation := do
  let (before, rest) ← Arguments.parse? { options := Arguments.common } true false {} args
  match rest with
  | [] => none
  | name :: rest =>
    let known ← Arguments.known? name
    let (after, _) ← Arguments.parse? known false false {} rest
    let config ← Arguments.config? valueOf? before after
    let command ← Arguments.command? name after
    return { config, command }

end ThemedPages
