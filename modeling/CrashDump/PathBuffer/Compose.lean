import CrashDump.Path
import CrashDump.PathBuffer.Basic

/-!
# The path of a dump

A dump lies in its directory under its id and the extension `.dmp`.  `dumpPath` is that path,
`compose` writes it into a buffer, and `requiredUnits` is the room it takes there.
-/

namespace CrashDump

/-- The length of a dump's id in units. -/
def idLength : Nat := 36

/-- The bytes of the extension `.dmp`. -/
def extension : List UInt8 := [0x2E, 0x64, 0x6D, 0x70]

/-- The path of the dump `id` in a directory. -/
def dumpPath {U : Type} [CodeUnit U] (directory id : List U) : List U :=
  directory ++ CodeUnit.ofByte Path.separator :: (id ++ extension.map CodeUnit.ofByte)

/-- The room that a dump's path takes in a directory of the given length, with its terminator. -/
def requiredUnits (directoryLength : Nat) : Nat :=
  directoryLength + 1 + idLength + extension.length + 1

theorem requiredUnits_eq (directoryLength : Nat) :
    requiredUnits directoryLength = directoryLength + 42 := rfl

@[simp] theorem length_dumpPath {U : Type} [CodeUnit U] (directory id : List U) :
    (dumpPath directory id).length = directory.length + id.length + 5 := by
  simp [dumpPath, extension]
  omega

namespace PathBuffer

variable {U : Type} {capacity : Nat} [CodeUnit U]

/-- Replaces the contents by the path of the dump `id` in a directory.  If the capacity does not
suffice, the parts written before it ran out stay. -/
def compose (directory id : List U) : Edit U capacity Unit := do
  clear
  append directory
  push (CodeUnit.ofByte Path.separator)
  append id
  appendBytes extension

end PathBuffer

end CrashDump
