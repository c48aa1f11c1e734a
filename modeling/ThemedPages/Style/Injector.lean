import ThemedPages.Style.Target
import ThemedPages.Theme.Basic

/-!
# Applied styles

An injector writes the properties of a page's theme to a target, as one element per page, and
keeps what it has applied. Declarations that could reach beyond their block are left out.
-/

namespace ThemedPages

/-- How themes are written to a target. -/
structure StyleOptions where
  /-- The selector of a page, with a placeholder for its id. -/
  containerSelector : String := "[data-page-id=\"\x7bpage\x7d\"]"
  /-- How the ids of elements start. -/
  elementStart : String := "page-theme-"
  /-- The selector of the whole document. -/
  rootSelector : String := ":root"
  /-- Whether the properties are written for the whole document too. -/
  rootFallback : Bool := true
  deriving DecidableEq, Repr

/-- What was applied to a page. -/
structure StyleHandle where
  elementId : String
  themeId : String
  propertyCount : Nat
  deriving DecidableEq, Repr

/-! ## Text -/

/-- The characters of plain names. -/
def isNameChar (c : Char) : Bool := c.isAlphanum || c == '-' || c == '_'

/-- A page id as part of an element's id: a hyphen for every character not allowed in it. -/
def slug (page : String) : String :=
  String.ofList (page.toList.map fun c => if isNameChar c then c else '-')

/-- A page id within quotes. -/
def quotedPage (page : String) : List Char :=
  page.toList.flatMap fun c => if c == '\\' || c == '"' then ['\\', c] else [c]

/-- The text with a value in the place of each placeholder; `skip` characters of a placeholder are
still to be passed over. -/
def substitute (placeholder value : List Char) : (skip : Nat) → List Char → List Char
  | _, [] => []
  | skip + 1, _ :: rest => substitute placeholder value skip rest
  | 0, c :: rest =>
    if placeholder.isPrefixOf (c :: rest) then
      value ++ substitute placeholder value (placeholder.length - 1) rest
    else c :: substitute placeholder value 0 rest

/-- The placeholder for a page id in a selector. -/
def pagePlaceholder : List Char := "\x7bpage\x7d".toList

namespace StyleOptions

/-- The id of a page's element. -/
def elementId (o : StyleOptions) (page : String) : String := o.elementStart ++ slug page

/-- The selector of a page. -/
def selectorOf (o : StyleOptions) (page : String) : String :=
  String.ofList (substitute pagePlaceholder (quotedPage page) 0 o.containerSelector.toList)

end StyleOptions

/-- Whether a property has the name of a custom property. -/
def isPropertyName (name : String) : Bool :=
  match name.toList with
  | '-' :: '-' :: rest => rest.all isNameChar
  | _ => false

/-- The characters that could end a declaration or start markup. -/
def isUnsafeChar (c : Char) : Bool :=
  c == '\x7b' || c == '\x7d' || c == ';' || c == '<' || c == '\n'

/-- The properties that can be declared without reaching beyond their block. -/
def safeDeclarations (properties : Styles) : List (String × String) :=
  properties.entries.filter fun p => isPropertyName p.1 && !p.2.toList.any isUnsafeChar

/-- The element for a page with a theme. -/
def StyleOptions.element (o : StyleOptions) (page : String) (t : ResolvedTheme) : StyleElement :=
  let declarations := safeDeclarations t.properties
  { id := o.elementId page
    rules := ⟨o.selectorOf page, declarations⟩ ::
      if o.rootFallback then [⟨o.rootSelector, declarations⟩] else [] }

/-! ## The injector -/

/-- An injector: its target, its options, and what is applied to which page. -/
structure StyleInjector where
  target : StyleTarget
  options : StyleOptions := {}
  applied : Table StyleHandle := .empty
  deriving DecidableEq

namespace StyleInjector

/-- Put a theme in the place of what is applied to a page. -/
def inject (i : StyleInjector) (page : String) (t : ResolvedTheme) :
    Except Failure StyleHandle × StyleInjector :=
  if !i.target.isAvailable then (.error (.styleTarget "no render target available"), i)
  else
    let e := i.options.element page t
    let target := i.target.remove e.id
    match target.insert e with
    | .error failure => (.error failure, { i with target, applied := i.applied.erase page })
    | .ok target =>
      let handle : StyleHandle := ⟨e.id, t.id, (safeDeclarations t.properties).length⟩
      (.ok handle, { i with target, applied := i.applied.insert page handle })

/-- Remove what is applied to a page. -/
def remove (i : StyleInjector) (page : String) : StyleInjector :=
  match i.applied.get? page with
  | some handle =>
    { i with target := i.target.remove handle.elementId, applied := i.applied.erase page }
  | none => i

/-- Whether something is applied to a page. -/
def isApplied (i : StyleInjector) (page : String) : Bool := i.applied.contains page

/-- Remove everything. -/
def clear (i : StyleInjector) : StyleInjector :=
  { i with
    target := i.applied.values.foldl (fun t handle => t.remove handle.elementId) i.target
    applied := .empty }

end StyleInjector

end ThemedPages
