import SetupBatch.Storage
/-!
This module contains trees of files, on which programs run without a machine. A path is followed
name by name from the directory where the program works, or from the root; a name may only follow a
directory. Names and paths are bounded in length.
-/

namespace SetupBatch

namespace FileTree

inductive Node where
  | file (bytes : ByteArray)
  | directory
  deriving Inhabited

/-- The names on the way from the directory where the program works. Names `..` come first if the
way leads above it, and a slash comes first if it starts at the root. -/
abbrev Place := List String

def isAbove (place : Place) : Bool := place.all (· == "..")

def root : Place := ["/"]

/-- What is known to stand at a place of any tree: the directories above it, and the null device,
which is empty whatever is written to it. -/
def fixed (place : Place) : Option Node :=
  if isAbove place ∨ place = root ∨ place = root ++ ["dev"] then some .directory
  else if place = root ++ ["dev", "null"] then some (.file .empty)
  else none

end FileTree

structure FileTree where
  nodes : List (FileTree.Place × FileTree.Node) := []
  deriving Inhabited

namespace FileTree

def node? (t : FileTree) (place : Place) : Option Node :=
  (fixed place).or (t.nodes.lookup place)

def put (t : FileTree) (place : Place) (node : Node) : FileTree :=
  { nodes := (place, node) :: t.nodes.filter (·.1 ≠ place) }

theorem node?_put (t : FileTree) {place : Place} (h : fixed place = none) (node : Node) :
    (t.put place node).node? place = some node := by
  simp [node?, put, h]

def maxName : Nat := 255

def maxPath : Nat := 4095

def parent (place : Place) : Place :=
  if isAbove place then place ++ [".."]
  else if place = root then root
  else place.dropLast

def follow (t : FileTree) (place : Place) (name : String) : Except StorageError Place :=
  match t.node? place with
  | none => .error .notFound
  | some (.file _) => .error .notDirectory
  | some .directory =>
    match name with
    | "" | "." => .ok place
    | ".." => .ok (parent place)
    | name => if maxName < name.utf8ByteSize then .error .nameTooLong else .ok (place ++ [name])

def names (path : String) : Except StorageError (Place × List String) :=
  if path.contains '\x00' then .error (.other "file name contained an unexpected NUL byte")
  else if maxPath < path.utf8ByteSize then .error .nameTooLong
  else .ok (if path.startsWith "/" then root else [], path.splitOn "/")

def locate (t : FileTree) (path : String) : Except StorageError Place := do
  let (start, names) ← names path
  names.foldlM t.follow start

def read (t : FileTree) (path : String) : Except StorageError ByteArray := do
  match t.node? (← t.locate path) with
  | some (.file bytes) => return bytes
  | some .directory => throw .isDirectory
  | none => throw .notFound

def write (t : FileTree) (path : String) (bytes : ByteArray) : Except StorageError FileTree := do
  let place ← t.locate path
  match t.node? place with
  | some .directory => throw .isDirectory
  | _ => return t.put place (.file bytes)

def isInto (names : List String) : Bool :=
  names.contains "." && names.all fun name => name == "" || name == "."

/-- Follows names from a place, and makes a directory wherever nothing stands. A directory that the
last names only lead into must stand already. What is made before a name fails stays in the tree. -/
def enter (t : FileTree) (place : Place) : List String → Except StorageError Place × FileTree
  | [] => (.ok place, t)
  | name :: names =>
    match t.follow place name with
    | .error e => (.error e, t)
    | .ok place =>
      match t.node? place with
      | some _ => t.enter place names
      | none =>
        if isInto names then (.error .notFound, t)
        else (t.put place .directory).enter place names

def makeDirs (t : FileTree) (path : String) : Except StorageError Unit × FileTree :=
  match names path with
  | .error e => (.error e, t)
  | .ok (start, names) =>
    match t.enter start names with
    | (.error e, t) => (.error e, t)
    | (.ok place, t) =>
      match t.node? place with
      | some (.file _) => (.error .alreadyExists, t)
      | _ => (.ok (), t)

def update (f : FileTree → Except StorageError FileTree) :
    StateM FileTree (Except StorageError Unit) := fun t =>
  match f t with
  | .ok t => (.ok (), t)
  | .error e => (.error e, t)

instance : Storage (StateM FileTree) where
  read path := fun t => (t.read path, t)
  write path bytes := update (·.write path bytes)
  makeDirs path := fun t => t.makeDirs path

end FileTree

end SetupBatch
