/-!
# Paths and their components

A path is a sequence of bytes.  `components` reads it as a file system does: runs of separators
count once, a dot between names says nothing, and a dot in front of a relative path is kept.

These rules serve all platforms, for paths are those of the one kind of file system there is here.
A backslash or a drive letter is part of a name.
-/

namespace CrashDump

/-- The bytes of a path. -/
abbrev Path := List UInt8

namespace Path

/-- The byte between two names. -/
def separator : UInt8 := 0x2F

/-- The name of a directory within itself. -/
def dot : List UInt8 := [0x2E]

/-- The name of the directory above. -/
def dotDot : List UInt8 := [0x2E, 0x2E]

/-- The pieces of a path between separators, empty ones included. -/
def pieces : Path → List (List UInt8)
  | [] => [[]]
  | b :: rest =>
    if b = separator then [] :: pieces rest
    else
      match pieces rest with
      | [] => [[b]]
      | piece :: more => (b :: piece) :: more

/-- The names in a path, dots and double dots among them. -/
def names (path : Path) : List (List UInt8) :=
  (pieces path).filter (· ≠ [])

/-- The path starts at the root. -/
def isAbsolute (path : Path) : Bool := path.head? = some separator

/-- The path ends in a separator. -/
def endsInSeparator (path : Path) : Bool := path.getLast? = some separator

/-- One step of a path. -/
inductive Component where
  /-- The root directory. -/
  | root
  /-- The directory the path is taken from. -/
  | current
  /-- The directory above. -/
  | parent
  /-- An entry of a directory. -/
  | entry (name : List UInt8)
deriving DecidableEq, Repr

/-- The component a name stands for. -/
def Component.ofName (name : List UInt8) : Component :=
  if name = dot then .current else if name = dotDot then .parent else .entry name

/-- The components of a path.  A dot counts only at the front of a relative path. -/
def components (path : Path) : List Component :=
  if path.isAbsolute then
    .root :: ((names path).filter (· ≠ dot)).map Component.ofName
  else
    match names path with
    | [] => []
    | first :: rest => Component.ofName first :: (rest.filter (· ≠ dot)).map Component.ofName

/-- The text of a component other than the root. -/
def Component.name : Component → List UInt8
  | .root => []
  | .current => dot
  | .parent => dotDot
  | .entry name => name

/-- The shortest path with the given components. -/
def ofComponents : List Component → Path
  | [] => []
  | .root :: rest => separator :: ofComponents rest
  | [component] => component.name
  | component :: rest => component.name ++ separator :: ofComponents rest

/-- The path without its last component, unless it has none to give up. -/
def parent? (path : Path) : Option Path :=
  match (components path).getLast? with
  | none | some .root => none
  | some _ => some (ofComponents (components path).dropLast)

/-- The path cut down to its first components.  With all of them it stays as it is. -/
def upTo (path : Path) (count : Nat) : Path :=
  let parts := components path
  if parts.length ≤ count then path else ofComponents (parts.take count)

/-- The name a path ends in, unless it ends in the root or a double dot. -/
def fileName? (path : Path) : Option (List UInt8) :=
  match (components path).getLast? with
  | some (.entry name) => some name
  | _ => none

end Path

end CrashDump
