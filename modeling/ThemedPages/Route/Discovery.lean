import ThemedPages.Route.Registry

/-!
# Discovery of pages

Every directory that holds a descriptor is a page, named by the directory, if that name is text. New
pages become routes, in the order of their names; a page whose descriptor cannot be read is
registered too, as not valid, so that it is seen.
-/

namespace ThemedPages

/-- The name of a descriptor in the directory of its page. -/
def descriptorName : String := "page.yaml"

/-- The names that are pages, ascending, of those found in a directory. -/
def pageNames (files : FileTree) (directory : String) (names : List String) : List String :=
  let isPage (name : String) : Bool :=
    files.exists? (Path.join (Path.join directory name) descriptorName)
  (names.filter isPage).mergeSort fun a b => a ≤ b

/-- What navigation shows of a new page: what its descriptor says, if that can be read. -/
def discoveredInfo (id : String) (rank : Nat) (d? : Except Failure Descriptor) : RouteInfo :=
  let order := Int64.ofNat rank
  match d? with
  | .error _ => { title := id, path := "/" ++ id, order }
  | .ok d =>
    let category := (d.info.map DescriptorMeta.tags).bind List.head?
    match d.page with
    | some p => { title := p.title, path := p.route, description := p.description, order, category }
    | none => { title := id, path := "/" ++ id, order, category }

/-- Register a page that was found, unless it is a route already. -/
def RouteRegistry.addPage (r : RouteRegistry) (files : FileTree) (directory : String)
    (now : Instant) (id : String) (rank : Nat) : Option RouteRegistry :=
  if (r.get? id).isSome then none
  else
    let home := Path.join directory id
    let path := Path.join home descriptorName
    let d? := Descriptor.ofFile files path
    let route : Route :=
      { id, info := discoveredInfo id rank d?, descriptorPath := path, componentPath := some home }
    match r.register route with
    | .error _ => none
    | .ok r => some (if d?.isOk then r else r.recordCheck id false now)

/-- Register the pages of a list, each with its rank, and give the ids that are new. -/
def RouteRegistry.addPages (files : FileTree) (directory : String) (now : Instant) :
    List (String × Nat) → RouteRegistry → List String × RouteRegistry
  | [], r => ([], r)
  | (id, rank) :: rest, r =>
    match r.addPage files directory now id rank with
    | none => addPages files directory now rest r
    | some r =>
      let (ids, r) := addPages files directory now rest r
      (id :: ids, r)

/-- Register the new pages of a directory, of which the names are listed in any order. -/
def RouteRegistry.discoverListed (r : RouteRegistry) (files : FileTree) (directory : String)
    (now : Instant) (names : List String) : List String × RouteRegistry :=
  addPages files directory now (pageNames files directory names).zipIdx r

/-- Register the new pages of a directory, and give their ids. -/
def RouteRegistry.discover (r : RouteRegistry) (files : FileTree) (directory : String)
    (now : Instant) : Except Failure (List String) × RouteRegistry :=
  match files.list directory with
  | .error fault => (.error (.other ("read pages directory " ++ directory) [fault.text]), r)
  | .ok names =>
    let (ids, r) := r.discoverListed files directory now names
    (.ok ids, r)

end ThemedPages
