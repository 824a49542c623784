import SafeSql.Action
import SafeSql.Files.Path

/-!
# Trees of files

Directories and files with their texts. At first the working directory is empty. A directory is
made with all directories on the way to it; a file is opened at the end of what it holds.

## Main definitions

* `Files.Node`, `Files.Tree` — the directories and the files.
* `Files.Tree.resolve` — the place that a path leads to, when it leads through directories.
* `Files.Tree.ensureDirectory`, `Files.Tree.openFile`, `Files.Tree.append` — the operations.
* `Files.Tree.texts` — the files of the working directory.
-/

namespace SafeSql.Files

inductive Node
  | file (text : String)
  | directory (entries : List (String × Node))

namespace Node

def empty : Node :=
  .directory []

/-- The entries of a directory; a file has none. -/
def entries : Node → List (String × Node)
  | .directory entries => entries
  | .file _ => []

def isDirectory : Node → Bool
  | .directory _ => true
  | .file _ => false

def find? : Node → List String → Option Node
  | node, [] => some node
  | node, name :: rest => (node.entries.lookup name).bind (find? · rest)

/-- The entries with the one of a name changed, or made at the end. -/
def change (name : String) (node : Node) : List (String × Node) → List (String × Node)
  | [] => [(name, node)]
  | entry :: rest =>
    if entry.1 = name then (name, node) :: rest else entry :: change name node rest

/-- The node with another one in the place that is found by some names. -/
def put (new : Node) : List String → Node → Node
  | [], _ => new
  | name :: rest, node =>
    let inner := (node.entries.lookup name).getD empty
    .directory (change name (put new rest inner) node.entries)

mutual

/-- The files below a node that is found by some names, with their names and texts. -/
def texts (names : List String) : Node → List (List String × String)
  | .file text => [(names, text)]
  | .directory entries => entryTexts names entries

def entryTexts (names : List String) : List (String × Node) → List (List String × String)
  | [] => []
  | (name, node) :: rest => texts (names ++ [name]) node ++ entryTexts names rest

end

end Node

/-- The directories that places are counted from, with what is in them. -/
structure Tree where
  nodes : List (Origin × Node)

namespace Tree

def nullDevice : Node :=
  .directory [("dev", .directory [("null", .file "")])]

/-- An empty working directory, and the null device. -/
def start : Tree :=
  ⟨[(.root, nullDevice)]⟩

/-- What is in the directory that places are counted from; it is always there. -/
def node (tree : Tree) (origin : Origin) : Node :=
  (tree.nodes.lookup origin).getD Node.empty

def node? (tree : Tree) (place : Place) : Option Node :=
  (tree.node place.origin).find? place.names

def put (tree : Tree) (place : Place) (node : Node) : Tree :=
  let others := tree.nodes.filter (·.1 ≠ place.origin)
  ⟨others ++ [(place.origin, Node.put node place.names (tree.node place.origin))]⟩

def nameLimit : Nat := 255

def pathLimit : Nat := 4095

/-- The place that a part of a path leads to from a place, which has to be a directory. -/
def enter (tree : Tree) (place : Place) (part : String) : Except Cause Place :=
  match tree.node? place with
  | none => .error .missing
  | some (.file _) => .error .notDirectory
  | some (.directory _) =>
    if nameLimit < part.utf8ByteSize then .error .nameTooLong else .ok (place.follow part)

/-- The place that a path leads to, when it leads through directories. -/
def resolve (tree : Tree) (path : Path) : Except Cause Place :=
  if pathLimit < path.text.utf8ByteSize then .error .nameTooLong
  else path.parts.foldlM tree.enter path.start

def isDirectory (tree : Tree) (path : Path) : Bool :=
  match tree.resolve path with
  | .ok place => ((tree.node? place).map Node.isDirectory).getD false
  | .error _ => false

/-- The tree with a new directory, for which the one above it has to be there. -/
def makeDirectory (tree : Tree) (path : Path) : Except Cause Tree := do
  let place ← tree.resolve path
  if (tree.node? place).isSome then throw .inUse
  pure (tree.put place Node.empty)

def refuseNull (path : Path) : Action Tree Unit :=
  if path.text.toList.contains '\x00' then throw (.file .nullCharacter) else pure ()

def makeOrFind (path : Path) : Action Tree Unit := do
  let tree ← get
  match tree.makeDirectory path with
  | .ok tree => set tree
  | .error cause =>
    if cause = .inUse && tree.isDirectory path then pure ()
    else throw (.file (.atPath cause path.text))

/-- Makes a directory and all that are missing on the way to it. -/
def makeAll (path : Path) : Action Tree Unit := do
  let tree ← get
  match tree.makeDirectory path with
  | .error .missing =>
    if path.parts ≠ [] then makeAll path.parent
  | _ => pure ()
  makeOrFind path
termination_by path.parts.length
decreasing_by
  simp only [Path.parent, List.length_dropLast]
  have := List.length_pos_iff.mpr ‹_›
  omega

def ensureDirectory (path : Path) : Action Tree Unit := do
  refuseNull path
  makeAll path

/-- Opens a file at its end and answers its place; an empty file is made where there is none. Two
points in the path lead up by name, whatever is there. -/
def openFile (path : Path) : Action Tree Place := do
  refuseNull path
  let place := path.place
  let direct : Path := ⟨path.slashes, place.path.parts⟩
  let tree ← get
  match tree.resolve direct with
  | .error cause => throw (.file (.atPath cause direct.text))
  | .ok _ =>
    match tree.node? place with
    | some (.directory _) => throw (.file (.atPath .isDirectory direct.text))
    | some (.file _) => pure place
    | none =>
      set (tree.put place (.file ""))
      pure place

def append (tree : Tree) (place : Place) (text : String) : Tree :=
  match tree.node? place with
  | some (.file before) => tree.put place (.file (before ++ text))
  | _ => tree

def allTexts (tree : Tree) : List (Place × String) :=
  tree.nodes.flatMap fun (origin, node) =>
    (node.texts []).map fun (names, text) => (⟨origin, names⟩, text)

/-- The files in the working directory and below it, with their paths and texts. -/
def texts (tree : Tree) : List (String × String) :=
  (tree.allTexts.filter (·.1.isInside)).map fun (place, text) => (place.path.text, text)

end Tree

end SafeSql.Files
