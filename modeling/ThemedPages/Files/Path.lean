/-!
# Paths

A path is text whose parts are parted by slashes. Empty parts and parts that are a single point
stand for nothing, except that a path may start with either: with a slash it starts at the root,
with a point at the working directory.
-/

namespace ThemedPages.Path

/-- The parts between slashes. -/
def pieces (path : String) : List String := (path.toList.splitOn '/').map String.ofList

/-- Whether a part of a path stands for nothing, when it is not the first. -/
def isVoid (piece : String) : Bool := piece.isEmpty || piece == "."

/-- The parts without those at the end that stand for nothing; the first part stays. -/
def trimVoid (pieces : List String) : List String :=
  match pieces with
  | [] => []
  | first :: rest => first :: (rest.reverse.dropWhile isVoid).reverse

/-- The names on the way that a path takes, if two points always lead back over the name before. -/
def place (path : String) : List String :=
  (pieces path).foldl (fun place piece =>
    if isVoid piece then place
    else if piece == ".." then place.dropLast
    else place ++ [piece]) []

/-- The last part, if it is a name. -/
def fileName? (path : String) : Option String :=
  ((trimVoid (pieces path)).getLast?).filter fun name => !isVoid name && name != ".."

/-- A name within a directory. -/
def join (directory name : String) : String :=
  if directory.isEmpty || directory.endsWith "/" then directory ++ name
  else directory ++ "/" ++ name

/-- The directory that holds the last part. -/
def parent (path : String) : String :=
  match trimVoid (trimVoid (pieces path)).dropLast with
  | [] => ""
  | [first] => if first.isEmpty && path.startsWith "/" then "/" else first
  | rest => "/".intercalate rest

/-- The path with its last part, if that is a name, replaced by another, or else with the name
added. -/
def withFileName (path name : String) : String :=
  if (fileName? path).isSome then join (parent path) name else join path name

end ThemedPages.Path
