/-!
# Configuration: file systems

What loading asks of a file system (`FileSystem`), and a file system that is a tree of directories
(`FileTree`). A place is the list of names that lead to it from the root.
-/

namespace ConfigRefs.Configuration

/-- The names from the root to a file or directory. -/
abbrev Place := List String

/-- The path of a place as text. -/
def Place.render (place : Place) : String := "/" ++ String.intercalate "/" place

/-- What can be asked of a file system, each question with nothing as the answer when it fails. -/
structure FileSystem (m : Type → Type) where
  /-- The place that a path leads to from a directory. -/
  resolve : Place → String → m (Option Place)
  /-- The names in a directory, each with whether it is a regular file. -/
  list : Place → m (Option (List (String × Bool)))
  /-- The bytes of a file. -/
  read : Place → m (Option ByteArray)

/-- A file or a directory with everything in it. -/
inductive FileTree where
  | file (contents : ByteArray)
  | directory (items : List (String × FileTree))

namespace FileTree

/-- Whether a tree is a regular file. -/
def isFile : FileTree → Bool
  | .file _ => true
  | .directory _ => false

/-- What is found at a place. -/
def get? : Place → FileTree → Option FileTree
  | [], tree => some tree
  | name :: place, .directory items => (items.lookup name).bind (get? place)
  | _ :: _, .file _ => none

/-- The place that one component of a path leads to. Only directories can be left. -/
def step (root : FileTree) (place : Place) (component : String) : Option Place :=
  match root.get? place with
  | some (.directory items) =>
    if component = "" ∨ component = "." then some place
    else if component = ".." then some place.dropLast
    else (items.lookup component).map fun _ => place ++ [component]
  | _ => none

/-- The components of a path between its slashes. -/
def components (path : String) : List String := path.splitOn "/"

/-- The place that a path leads to from a directory, or from the root when it begins with a slash. -/
def resolve (root : FileTree) (place : Place) (path : String) : Option Place :=
  match components path with
  | [""] => none
  | "" :: absolute => absolute.foldlM root.step []
  | relative => relative.foldlM root.step place

/-- The file system of a tree. -/
def fileSystem (root : FileTree) : FileSystem Id where
  resolve := root.resolve
  list place := match root.get? place with
    | some (.directory items) => some (items.map fun (name, tree) => (name, tree.isFile))
    | _ => none
  read place := match root.get? place with
    | some (.file contents) => some contents
    | _ => none

/-- The tree with a further tree at a place, directories being made on the way. -/
def insert (item : FileTree) : Place → FileTree → FileTree
  | [], tree => match item, tree with
    | .directory [], .directory items => .directory items
    | _, _ => item
  | name :: place, .directory items =>
    let below := (items.lookup name).getD (.directory [])
    .directory (items.filter (·.1 != name) ++ [(name, insert item place below)])
  | name :: place, .file _ => .directory [(name, insert item place (.directory []))]

end FileTree

end ConfigRefs.Configuration
