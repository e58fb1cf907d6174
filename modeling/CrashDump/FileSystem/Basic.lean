import CrashDump.IoError
import CrashDump.Path
import CrashDump.Table

/-!
# Files and directories

A file system is a tree of directories and files together with the directory that relative paths
start from.

* `node?` is its view: what there is at a place.
* `resolve` and `slot?` follow a path, as the system does: every name but the last must lead to a
  directory, an empty path leads nowhere, and long names and paths are refused.

There is one kind of file system for all platforms: names are separated by `/`, and the limits on
names and paths are those of Linux.  What is said of handlers on several platforms is said of a file
system that they share.
-/

namespace CrashDump

/-- A place in the tree: the names on the way from the root. -/
abbrev Location := List (List UInt8)

/-- The second place lies somewhere below the first. -/
def Location.isStrictlyAbove (location below : Location) : Bool :=
  location.isPrefixOf below && below ≠ location

/-- What there is at a place. -/
inductive Node where
  | directory
  /-- A file with its permission bits. -/
  | file (mode : Nat) (contents : List UInt8)
deriving DecidableEq, Repr

/-- A tree of directories and files. -/
structure FileSystem where
  /-- What there is at each place but the root. -/
  nodes : Table Location Node
  /-- Where relative paths start. -/
  workingDirectory : Location
deriving DecidableEq, Repr

namespace FileSystem

/-- The longest name of an entry. -/
def maxName : Nat := 255

/-- The length that every path stays below. -/
def pathLimit : Nat := 4096

/-- A tree in which the given directory and those above it are all there is. -/
def ofWorkingDirectory (location : Location) : FileSystem where
  nodes := ⟨(List.range location.length).map fun n => (location.take (n + 1), .directory)⟩
  workingDirectory := location

/-! ## Following a path -/

/-- What there is at a place.  The root is always there. -/
def node? (files : FileSystem) (location : Location) : Option Node :=
  if location = [] then some .directory else files.nodes.get? location

/-- Fails unless the place is a directory. -/
def requireDirectory (files : FileSystem) (location : Location) : Except IoError Unit :=
  match files.node? location with
  | some .directory => .ok ()
  | some (.file _ _) => .error (.system Errno.notADirectory)
  | none => .error (.system Errno.notFound)

/-- The place of an entry of a directory, which need not exist. -/
def entry (files : FileSystem) (directory : Location) (name : List UInt8) :
    Except IoError Location := do
  files.requireDirectory directory
  if name = Path.dot then return directory
  if name = Path.dotDot then return directory.dropLast
  if name.length > maxName then throw (.system Errno.nameTooLong)
  return directory ++ [name]

/-- Follows names from a directory.  All of them must exist. -/
def walk (files : FileSystem) (start : Location) : List (List UInt8) → Except IoError Location
  | [] => .ok start
  | name :: rest => do
    let next ← files.entry start name
    if files.node? next = none then throw (.system Errno.notFound)
    files.walk next rest

/-- Where a path starts. -/
def start (files : FileSystem) (path : Path) : Except IoError Location :=
  if path = [] then .error (.system Errno.notFound)
  else if path.length ≥ pathLimit then .error (.system Errno.nameTooLong)
  else .ok (if path.isAbsolute then [] else files.workingDirectory)

/-- The place a path leads to, which exists. -/
def resolve (files : FileSystem) (path : Path) : Except IoError Location := do
  files.walk (← files.start path) path.names

/-- The last name is a dot, a double dot or none, so that the path leads to a directory on the way
to it. -/
def endsInDots (path : Path) : Bool :=
  match path.names.getLast? with
  | none => true
  | some name => name = Path.dot || name = Path.dotDot

/-- The place a path leads to, which may be free.  There is none for a path that ends in dots. -/
def slot? (files : FileSystem) (path : Path) : Except IoError (Option Location) := do
  let directory ← files.walk (← files.start path) path.names.dropLast
  match path.names.getLast? with
  | none => return none
  | some name =>
    let location ← files.entry directory name
    return if endsInDots path then none else some location

/-- The path leads to a directory. -/
def isDirectory (files : FileSystem) (path : Path) : Bool :=
  match files.resolve path with
  | .ok location => files.node? location = some .directory
  | .error _ => false

end FileSystem

end CrashDump
