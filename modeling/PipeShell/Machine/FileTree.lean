import PipeShell.Text.Integer
import PipeShell.Text.Utf8
import PipeShell.System.Errno

/-!
# Files

The files of a machine are a tree of named nodes. A path is read from the root or from the
working directory, name by name; every node on the way must be a directory. What a file holds is
kept apart from the tree, under a number, so that a file that is open stays the same one when its
path goes.

* `FileTree.place` follows a path as far as its last name, `FileTree.node` to its end.
* `FileTree.put` gives a file a new content, and makes it if it is not there.
-/

namespace PipeShell

/-- What may stand in a directory. -/
inductive Node where
  /-- A file, which may be allowed to be started as a program; its content is kept under a
  number. -/
  | file (executable : Bool) (number : Nat)
  /-- A program that the machine knows by its name. -/
  | program (name : String)
  /-- The file that swallows what is written and holds nothing. -/
  | null
  /-- The file that swallows what is written and holds zeros without end. -/
  | zeros
  /-- The directory that holds the open descriptors of whoever looks into it. -/
  | descriptors
  /-- What a descriptor of whoever opens it refers to. -/
  | descriptor (fd : Nat)
  /-- A directory. -/
  | directory (entries : List (String × Node))

/-- What is to be learnt about a node. -/
inductive NodeKind where
  /-- A file of a size. -/
  | file (executable : Bool) (size number : Nat)
  /-- A directory. -/
  | directory
  /-- A file that is no store of octets. -/
  | device
  deriving DecidableEq, Repr

namespace Node

/-- What a directory holds under a name. -/
def child? (node : Node) (name : String) : Option Node :=
  match node with
  | directory entries => entries.lookup name
  | descriptors => (Text.digits? name).map descriptor
  | _ => none

/-- Whether names can be looked up in a node. -/
def isDirectory : Node → Bool
  | directory _ => true
  | descriptors => true
  | _ => false

/-- What stands at the end of a list of names. -/
def find? (node : Node) : List String → Option Node
  | [] => some node
  | name :: rest => (node.child? name).bind fun child => child.find? rest

/-- Puts a node at the end of a list of names, or takes it away, if its directory is there. -/
def put (new : Option Node) (node : Node) : List String → Option Node
  | [] => new
  | name :: rest =>
    match node with
    | directory entries =>
      match entries.lookup name, rest, new with
      | some _, [], none => some (directory (entries.filter fun entry => entry.1 ≠ name))
      | some child, rest, _ => (put new child rest).map fun child =>
        directory (entries.map fun entry => if entry.1 = name then (name, child) else entry)
      | none, [], some new => some (directory (entries ++ [(name, new)]))
      | none, _, _ => none
    | _ => none

end Node

/-- The files of a machine, as one user sees them. -/
structure FileTree where
  /-- The root directory. -/
  root : Node := .directory []
  /-- What the files hold, by number. -/
  contents : Array ByteArray := #[]
  /-- The names that lead to the working directory. -/
  workingDirectory : List String := []
  /-- Whether the user may change files. -/
  writable : Bool := true

namespace FileTree

/-- How long a name may be, in octets. -/
def maxName : Nat := 255

/-- How long a path may be, in octets, with its end mark. -/
def maxPath : Nat := 4096

/-- Follows names from a place; every node that a name is looked up in must be a directory. -/
def walk (tree : FileTree) (place : List String) : List String → Except Errno (List String)
  | [] => .ok place
  | name :: rest =>
    match tree.root.find? place with
    | some node =>
      if !node.isDirectory then .error .enotdir
      else if name = "" ∨ name = "." then tree.walk place rest
      else if name = ".." then tree.walk place.dropLast rest
      else if maxName < name.utf8ByteSize then .error .enametoolong
      else tree.walk (place ++ [name]) rest
    | none => .error .enoent

/-- The place that a path names, whether anything stands there or not. -/
def place (tree : FileTree) (path : String) : Except Errno (List String) :=
  if path = "" then .error .enoent
  else if maxPath ≤ path.utf8ByteSize then .error .enametoolong
  else tree.walk (if path.startsWith "/" then [] else tree.workingDirectory) (path.splitOn "/")

/-- What stands at the end of a path. -/
def node (tree : FileTree) (path : String) : Except Errno Node := do
  match tree.root.find? (← tree.place path) with
  | some node => return node
  | none => throw .enoent

/-- What a file holds, given its number. -/
def held (tree : FileTree) (number : Nat) : ByteArray :=
  tree.contents.getD number .empty

/-- The content of a file. -/
def content (tree : FileTree) (path : String) : Except Errno Bytes := do
  match ← tree.node path with
  | .file _ number => return (tree.held number).toList
  | .program _ => return []
  | .null => return []
  | .zeros => return []
  | .descriptor _ => return []
  | .descriptors => throw .eisdir
  | .directory _ => throw .eisdir

/-- What is to be learnt about a node. -/
def kind (tree : FileTree) : Node → NodeKind
  | .file executable number => .file executable (tree.held number).size number
  | .program _ => .file true 0 0
  | .null => .device
  | .zeros => .device
  | .descriptor _ => .device
  | .descriptors => .directory
  | .directory _ => .directory

/-- Lets a file hold something else. -/
def hold (tree : FileTree) (number : Nat) (content : ByteArray) : FileTree :=
  { tree with contents := tree.contents.setIfInBounds number content }

/-- Puts a node at a place where its directory must be. -/
def putNode (tree : FileTree) (place : List String) (new : Option Node) : Except Errno FileTree :=
  if tree.writable then
    match Node.put new tree.root place with
    | some root => .ok { tree with root }
    | none => .error .enoent
  else .error .eacces

/-- Makes a file at a place. -/
def add (tree : FileTree) (place : List String) (executable : Bool) (content : Bytes) :
    Except Errno FileTree := do
  let tree ← tree.putNode place (some (.file executable tree.contents.size))
  return { tree with contents := tree.contents.push ⟨content.toArray⟩ }

/-- Gives a file a new content, and makes it if it is not there. -/
def put (tree : FileTree) (path : String) (content : Bytes) : Except Errno FileTree := do
  let place ← tree.place path
  match tree.root.find? place with
  | some (.directory _) => throw .eisdir
  | some .descriptors => throw .eisdir
  | some (.file _ number) =>
    if tree.writable then return tree.hold number ⟨content.toArray⟩ else throw .eacces
  | some (.program _) => throw .eacces
  | some _ => return tree
  | none => tree.add place false content

end FileTree

end PipeShell
