import Companion.Output.Directory
import Companion.Table

/-!
# Trees of files

Files and directories in memory.  A path is walked name by name; whatever it passes through has to
be a directory.
-/

namespace Companion

/-- What stands at a place of a tree. -/
inductive FileNode where
  | directory
  | file (content : String)
  deriving DecidableEq, Repr

/-- Files and directories, with the directory where paths start. -/
structure FileTree where
  /-- What stands at each place; a place is known by the names on the way from the root. -/
  nodes : Table (List String) FileNode
  /-- The place where paths start. -/
  working : List String

namespace FileTree

/-- What stands at a place; the root is a directory. -/
def node? (tree : FileTree) (place : List String) : Option FileNode :=
  if place = [] then some .directory else tree.nodes.get? place

/-- The tree with something put at a place. -/
def put (tree : FileTree) (place : List String) (node : FileNode) : FileTree :=
  { tree with nodes := tree.nodes.insert place node }

/-- One step on a path. -/
def stepTo (place : List String) (name : String) : List String :=
  if name = "" ∨ name = "." then place
  else if name = ".." then place.dropLast
  else place ++ [name]

/-- Walk on from a place. -/
def walk (tree : FileTree) : List String → List String → Except PathFault (List String)
  | place, [] => .ok place
  | place, name :: rest =>
    match tree.node? place with
    | some .directory => tree.walk (stepTo place name) rest
    | some (.file _) => .error .notDirectory
    | none => .error .absent

/-- The place that a path leads to, where nothing has to stand. -/
def place (tree : FileTree) (path : String) : Except PathFault (List String) :=
  if path = "" then .error .absent
  else
    tree.walk (if Path.isAbsolute path then [] else tree.working)
      ((path.toList.splitOn '/').map String.ofList)

/-- What a path leads to. -/
def find? (tree : FileTree) (path : String) : Option FileNode :=
  match tree.place path with
  | .ok place => tree.node? place
  | .error _ => none

/-- The tree with a directory for each name on the way on from a place. -/
def putDirectories (tree : FileTree) (place : List String) : List String → FileTree
  | [] => tree
  | name :: rest =>
    let here := place ++ [name]
    (if (tree.node? here).isSome then tree else tree.put here .directory).putDirectories here rest

/-- The tree of given files, named by their paths from the working directory. -/
def ofFiles (working : List String) (files : List (String × String)) : FileTree :=
  files.foldl (fun tree (path, content) =>
    let names := working ++ (path.toList.splitOn '/').map String.ofList
    (tree.putDirectories [] names.dropLast).put names (.file content))
    (putDirectories ⟨.empty, working⟩ [] working)

/-- The files below the working directory, named by their paths from it. -/
def files (tree : FileTree) : List (String × String) :=
  tree.nodes.entries.filterMap fun (place, node) =>
    match tree.working.isPrefixOf? place, node with
    | some names, .file content => some (Text.joined "/" names, content)
    | _, _ => none

/-- Make one directory. -/
def makeDirectory (path : String) : StateM FileTree (Option PathFault) := fun tree =>
  match tree.place path with
  | .error fault => (some fault, tree)
  | .ok place =>
    if (tree.node? place).isSome then (some .present, tree)
    else (none, tree.put place .directory)

/-- Write a file. -/
def write (path content : String) : StateM FileTree (Option PathFault) := fun tree =>
  match tree.place path with
  | .error fault => (some fault, tree)
  | .ok place =>
    if tree.node? place = some .directory then (some .directory, tree)
    else (none, tree.put place (.file content))

/-- Keep files on a tree. -/
def storage : Storage (StateM FileTree) where
  read path := fun tree =>
    match tree.find? path with
    | some (.file content) => (some content, tree)
    | _ => (none, tree)
  makeDirectory := makeDirectory
  isDirectory path := fun tree => (decide (tree.find? path = some .directory), tree)
  write := write

end FileTree
end Companion
