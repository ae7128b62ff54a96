import BenchCompare.Files.View

/-!
# A tree of files in memory

A tree of named files and directories below a working directory.  Paths are followed part by part:
what is not the last part has to be a directory, two points lead to the directory above, and an
empty part or a single point stays where it is.  Above the working directory there are directories,
but nothing in them is known by name.
-/

namespace BenchCompare

/-- What a file holds. -/
inductive FileContent where
  | text (text : String)
  /-- Bytes that are no text. -/
  | binary
  deriving DecidableEq, Repr

/-- What a name stands for. -/
inductive FileNode where
  | directory
  | file (content : FileContent)
  deriving DecidableEq, Repr

/-- Files and directories by the names that lead to them from the working directory.  Where a list
of names occurs twice, its first occurrence counts. -/
structure FileTree where
  nodes : List (List (List Char) × FileNode) := []
  deriving DecidableEq, Repr

/-- A place in or above the tree. -/
inductive FilePlace where
  | below (names : List (List Char))
  | above
  deriving DecidableEq, Repr

namespace FilePlace

/-- The place above. -/
def up : FilePlace → FilePlace
  | .below [] => .above
  | .below names => .below names.dropLast
  | .above => .above

/-- The place of a name in a directory, if there can be one. -/
def down? (name : List Char) : FilePlace → Option FilePlace
  | .below names => some (.below (names ++ [name]))
  | .above => none

end FilePlace

namespace FileTree

/-- What is at a place. -/
def nodeAt? (tree : FileTree) : FilePlace → Option FileNode
  | .below [] => some .directory
  | .below names => tree.nodes.lookup names
  | .above => some .directory

/-- The greatest length of a name, in bytes. -/
def nameLimit : Nat := 255

/-- The least length of a path that is too long, in bytes. -/
def pathLimit : Nat := 4096

/-- Follows the parts of a path. -/
def follow (tree : FileTree) (place : FilePlace) : List (List Char) → Except FileFault FilePlace
  | [] => .ok place
  | part :: rest =>
    match tree.nodeAt? place with
    | none => .error .notFound
    | some (.file _) => .error .notDirectory
    | some .directory =>
      if Path.isIdle part then tree.follow place rest
      else if part = ['.', '.'] then tree.follow place.up rest
      else if nameLimit < (String.ofList part).utf8ByteSize then .error .nameTooLong
      else
        match place.down? part with
        | some next => tree.follow next rest
        | none => .error .notFound

/-- The place that a path leads to. -/
def placeOf (tree : FileTree) (path : Path) : Except FileFault FilePlace :=
  if path.text.toList.contains '\x00' then .error .nulInPath
  else if path.text.isEmpty then .error .notFound
  else if pathLimit ≤ path.text.utf8ByteSize then .error .nameTooLong
  else tree.follow (if path.isAbsolute then .above else .below []) path.rawParts

/-- What a path leads to. -/
def node (tree : FileTree) (path : Path) : Except FileFault FileNode :=
  match tree.placeOf path with
  | .error fault => .error fault
  | .ok place =>
    match tree.nodeAt? place with
    | some found => .ok found
    | none => .error .notFound

/-- Whether a path leads anywhere. -/
def isPresent (tree : FileTree) (path : Path) : Bool :=
  (tree.node path).toBool

/-- The text of a file. -/
def readText (tree : FileTree) (path : Path) : Except FileFault String :=
  match tree.node path with
  | .error fault => .error fault
  | .ok .directory => .error .isDirectory
  | .ok (.file (.text text)) => .ok text
  | .ok (.file .binary) => .error .notText

/-- Whether a file can be written at a path: everything but its last part has to be there, and the
last part must be no directory. -/
def canWrite (tree : FileTree) (path : Path) : Bool :=
  match tree.placeOf path with
  | .error _ => false
  | .ok place => tree.nodeAt? place ≠ some .directory

/-- The tree as it is read. -/
def view (tree : FileTree) : FileView where
  readText := tree.readText
  isFile path := tree.node path matches .ok (.file _)
  isDirectory path := tree.node path matches .ok .directory
  canWrite := tree.canWrite

/-- The tree with a node at the end of some names. -/
def put (tree : FileTree) (names : List (List Char)) (node : FileNode) : FileTree where
  nodes := (names, node) :: tree.nodes

/-- The tree with directories for the names in front of the last one. -/
def putParents (tree : FileTree) (names : List (List Char)) : FileTree :=
  (List.range (names.length - 1)).foldl
    (fun tree n => tree.put (names.take (n + 1)) .directory) tree

/-- The names of a path, without the parts that lead nowhere. -/
def namesOf (path : Path) : List (List Char) :=
  path.rawParts.filter fun part => !Path.isIdle part

/-- The tree with a new file or directory, and with directories on the way to it. -/
def add (tree : FileTree) (path : Path) (node : FileNode) : FileTree :=
  (tree.putParents (namesOf path)).put (namesOf path) node

/-- The tree after a file was written; a path that leads nowhere changes nothing. -/
def write (tree : FileTree) (path : Path) (content : FileContent) : FileTree :=
  match tree.placeOf path with
  | .ok (.below (name :: names)) => tree.put (name :: names) (.file content)
  | _ => tree

end FileTree

end BenchCompare
