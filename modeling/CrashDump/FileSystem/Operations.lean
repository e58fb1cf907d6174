import CrashDump.FileSystem.Basic

/-!
# Making and removing files

* `makeDirectory`, `openFile` and `removeDirectory` are calls of the system.
* `makeDirectories`, `createFile`, `writeFile`, `removeFile` and `removeDirectories` are what
  programs use; they refuse a path with a nul in it.
-/

namespace CrashDump.FileSystem

/-! ## The system's calls -/

/-- Makes a directory. -/
def makeDirectory (files : FileSystem) (path : Path) : Except IoError FileSystem := do
  match ← files.slot? path with
  | none => throw (.system Errno.alreadyExists)
  | some location =>
    match files.node? location with
    | some _ => throw (.system Errno.alreadyExists)
    | none => return { files with nodes := files.nodes.insert location .directory }

/-- Opens a file for writing, made with the given permission bits if it does not exist and emptied
if it does. -/
def openFile (files : FileSystem) (path : Path) (mode : Nat) :
    Except IoError (Location × FileSystem) := do
  match ← files.slot? path with
  | none => throw (.system Errno.isADirectory)
  | some location =>
    if path.endsInSeparator then throw (.system Errno.isADirectory)
    match files.node? location with
    | some .directory => throw (.system Errno.isADirectory)
    | some (.file mode _) =>
      return (location, { files with nodes := files.nodes.insert location (.file mode []) })
    | none =>
      return (location, { files with nodes := files.nodes.insert location (.file mode []) })

/-- Why a path that ends in dots, or is the root, names no directory to remove. -/
def dotsRefusal (path : Path) : Int :=
  match path.names.getLast? with
  | none => Errno.busy
  | some name => if name = Path.dot then Errno.invalidArgument else Errno.notEmpty

/-- Removes a directory that is empty. -/
def removeDirectory (files : FileSystem) (path : Path) : Except IoError FileSystem := do
  match ← files.slot? path with
  | none => throw (.system (dotsRefusal path))
  | some location =>
    match files.node? location with
    | none => throw (.system Errno.notFound)
    | some (.file _ _) => throw (.system Errno.notADirectory)
    | some .directory =>
      if files.nodes.keys.any location.isStrictlyAbove then throw (.system Errno.notEmpty)
      return { files with nodes := files.nodes.erase location }

/-- Replaces what a file holds. -/
def setContents (files : FileSystem) (location : Location) (contents : List UInt8) : FileSystem :=
  match files.node? location with
  | some (.file mode _) =>
    { files with nodes := files.nodes.insert location (.file mode contents) }
  | _ => files

/-! ## What programs use -/

/-- The permission bits of a file that a program makes. -/
def defaultMode : Nat := 0o644

/-- Refuses a path with a nul in it. -/
def refuseNul (path : Path) : Except IoError Unit :=
  if 0 ∈ path then
    .error (.explained .invalidInput "file name contained an unexpected NUL byte")
  else
    .ok ()

/-- Makes a directory, unless there is a nul in its path. -/
def tryMakeDirectory (files : FileSystem) (path : Path) : Except IoError FileSystem := do
  refuseNul path
  files.makeDirectory path

/-- The directory a path leads to. -/
def findDirectory (files : FileSystem) (path : Path) : Except IoError Location := do
  refuseNul path
  let location ← files.resolve path
  files.requireDirectory location
  return location

/-- Makes the directory of a path's first components, and those above it as far as they are needed
for it.  The directories made before a failure stay. -/
def makeUpTo (files : FileSystem) (path : Path) : Nat → Except IoError Unit × FileSystem
  | 0 => (.ok (), files)
  | count + 1 =>
    let directory := path.upTo (count + 1)
    let settle (files : FileSystem) : Except IoError Unit × FileSystem :=
      match files.tryMakeDirectory directory with
      | .ok files => (.ok (), files)
      | .error cause =>
        (if (files.findDirectory directory).isOk then .ok () else .error cause, files)
    match files.tryMakeDirectory directory with
    | .error (.system Errno.notFound) =>
      match files.makeUpTo path count with
      | (.error cause, files) => (.error cause, files)
      | (.ok (), files) => settle files
    | _ => settle files

/-- Makes a directory and those above it that are missing.  The empty path needs none. -/
def makeDirectories (files : FileSystem) (path : Path) : Except IoError Unit × FileSystem :=
  if path = [] then (.ok (), files) else files.makeUpTo path path.components.length

/-- Opens a file as programs do. -/
def createFile (files : FileSystem) (path : Path) : Except IoError (Location × FileSystem) := do
  refuseNul path
  files.openFile path defaultMode

/-- Makes a file with the given contents. -/
def writeFile (files : FileSystem) (path : Path) (contents : List UInt8) :
    Except IoError FileSystem := do
  let (location, files) ← files.createFile path
  return files.setContents location contents

/-- The file a path leads to, if it does. -/
def file? (files : FileSystem) (path : Path) : Option (List UInt8) :=
  match refuseNul path, files.resolve path with
  | .ok (), .ok location =>
    match files.node? location with
    | some (.file _ contents) => some contents
    | _ => none
  | _, _ => none

/-- Removes a file. -/
def removeFile (files : FileSystem) (path : Path) : Except IoError FileSystem := do
  refuseNul path
  match ← files.slot? path with
  | none => throw (.system Errno.isADirectory)
  | some location =>
    match files.node? location with
    | none => throw (.system Errno.notFound)
    | some .directory => throw (.system Errno.isADirectory)
    | some (.file _ _) =>
      if path.endsInSeparator then throw (.system Errno.notADirectory)
      return { files with nodes := files.nodes.erase location }

/-- Leaves nothing below a directory. -/
def emptyDirectory (files : FileSystem) (location : Location) : FileSystem :=
  { files with nodes := files.nodes.filterKeys fun below => !location.isStrictlyAbove below }

/-- Removes a directory with all that is below it.  The path is followed once more when the
directory is empty; if it led through what was below the directory, it leads nowhere by then, and
the empty directory stays. -/
def removeDirectories (files : FileSystem) (path : Path) : Except IoError Unit × FileSystem :=
  match files.findDirectory path with
  | .error cause => (.error cause, files)
  | .ok location =>
    let files := files.emptyDirectory location
    match files.removeDirectory path with
    | .ok files => (.ok (), files)
    | .error (.system Errno.notFound) => (.ok (), files)
    | .error cause => (.error cause, files)

/-- All that is below the working directory, by its place there. -/
def listing (files : FileSystem) : List (Location × Node) :=
  (files.nodes.entries.filter fun entry => files.workingDirectory.isStrictlyAbove entry.1).map
    fun entry => (entry.1.drop files.workingDirectory.length, entry.2)

end CrashDump.FileSystem
