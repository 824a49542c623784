/-!
# Paths

A path leads from the root or from the working directory through the names of directories to a
file or a directory. Two points lead one directory up, one point leads nowhere.

## Main definitions

* `Files.Path`, `Files.Path.ofText`, `Files.Path.text` — a path as it is written.
* `Files.Place` — where a path leads when every name on it is a directory.
* `Files.Path.place` — the place of a path.
-/

namespace SafeSql.Files

/-- A path as it is written: the slashes that it begins with, and its parts. -/
structure Path where
  slashes : Nat
  parts : List String
  deriving DecidableEq, Repr

namespace Path

/-- The path that a text stands for. Parts that lead nowhere are left out; three or more slashes
at the front are as good as one. -/
def ofText (text : String) : Path :=
  let chars := text.toList
  let slashes := (chars.takeWhile (· = '/')).length
  let parts := (chars.splitOn '/').filter fun part => !part.isEmpty && part ≠ ['.']
  ⟨if 2 < slashes then 1 else slashes, parts.map String.ofList⟩

/-- The path in words: a point when it has no parts. -/
def text (path : Path) : String :=
  if path.slashes = 0 && path.parts.isEmpty then "."
  else String.ofList (List.replicate path.slashes '/') ++ "/".intercalate path.parts

def isAbsolute (path : Path) : Bool :=
  path.slashes ≠ 0

/-- A path that begins at the end of another one, unless it begins at the root. -/
def child (directory path : Path) : Path :=
  if path.isAbsolute then path else ⟨directory.slashes, directory.parts ++ path.parts⟩

def parent (path : Path) : Path :=
  ⟨path.slashes, path.parts.dropLast⟩

end Path

inductive Origin
  | root
  | above (levels : Nat)
  deriving DecidableEq, Repr

/-- A place: the names that lead to it, none of which leads up. -/
structure Place where
  origin : Origin
  names : List String
  deriving DecidableEq, Repr

namespace Place

def here : Place :=
  ⟨.above 0, []⟩

def down (place : Place) (name : String) : Place :=
  ⟨place.origin, place.names ++ [name]⟩

/-- The directory that holds a place; the root holds itself. -/
def up (place : Place) : Place :=
  if place.names.isEmpty then
    match place.origin with
    | .root => place
    | .above levels => ⟨.above (levels + 1), []⟩
  else ⟨place.origin, place.names.dropLast⟩

def follow (place : Place) (part : String) : Place :=
  if part = ".." then place.up else place.down part

def path (place : Place) : Path :=
  match place.origin with
  | .root => ⟨1, place.names⟩
  | .above levels => ⟨0, List.replicate levels ".." ++ place.names⟩

def isInside (place : Place) : Bool :=
  place.origin = .above 0

end Place

namespace Path

def start (path : Path) : Place :=
  if path.isAbsolute then ⟨.root, []⟩ else Place.here

/-- The place that the path leads to, whatever is there on the way. -/
def place (path : Path) : Place :=
  path.parts.foldl Place.follow path.start

end Path

end SafeSql.Files
