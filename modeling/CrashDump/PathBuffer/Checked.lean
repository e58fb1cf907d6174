import CrashDump.PathBuffer.Compose
import CrashDump.Word

/-!
# Path buffers in machine words

The operations on path buffers once more, with every sum taken in machine words and every index
and range checked against the cells.  A check that fails is a panic, which is told apart from
running out of capacity.
-/

namespace CrashDump.PathBuffer.Checked

variable {U : Type} {capacity : Nat}

/-- Why an edit stopped. -/
inductive Stop where
  /-- The path would exceed the capacity. -/
  | capacity (error : CapacityError)
  /-- A check failed. -/
  | panic (cause : Panic)
deriving DecidableEq, Repr

/-- An edit in which every sum and every index is checked. -/
abbrev Edit (U : Type) (capacity : Nat) := EStateM Stop (PathBuffer U capacity)

/-- The value of a checked computation, or its panic. -/
def check {α : Type} : Except Panic α → Edit U capacity α
  | .ok value => pure value
  | .error cause => throw (.panic cause)

/-- Stops unless a number of units and a terminator fit behind the path. -/
def reserve (count : Nat) : Edit U capacity Unit := do
  let stop ← check (Word.add (← get).length count)
  let stop ← check (Word.add stop 1)
  if stop > capacity then throw (.capacity .exceeded)

/-- Overwrites the cells from `start` to the end of `units`. -/
def write (start : Nat) (units : List U) : Edit U capacity Unit := fun buffer =>
  if h : start + units.length ≤ capacity then
    .ok () (buffer.write start units h)
  else
    .error (.panic (.rangeStopOutOfBounds (start + units.length) capacity)) buffer

/-- Moves the end of the path. -/
def advance (count : Nat) : Edit U capacity Unit := do
  let length ← check (Word.add (← get).length count)
  modify fun buffer => { buffer with length }

/-- Adds units to the path. -/
def append (units : List U) : Edit U capacity Unit := do
  reserve units.length
  let start := (← get).length
  discard <| check (Word.add start units.length)
  write start units
  advance units.length

/-- Adds one unit to the path. -/
def push (unit : U) : Edit U capacity Unit := append [unit]

/-- Forgets the path. -/
def clear : Edit U capacity Unit := modify cleared

/-- The path in the buffer. -/
def contents : Edit U capacity (List U) := do
  let buffer ← get
  if buffer.length > capacity then
    throw (.panic (.rangeStopOutOfBounds buffer.length capacity))
  return buffer.cells.take buffer.length

variable [CodeUnit U]

/-- Adds bytes, each widened to a unit, to the path.  The cells from the end of the path on are
filled one by one, for as long as there are both cells and bytes. -/
def appendBytes (bytes : List UInt8) : Edit U capacity Unit := do
  reserve bytes.length
  let start := (← get).length
  if start > capacity then throw (.panic (.rangeStartOutOfBounds start capacity))
  write start ((bytes.take (capacity - start)).map CodeUnit.ofByte)
  advance bytes.length

/-- Replaces the contents by the path of the dump `id` in a directory. -/
def compose (directory id : List U) : Edit U capacity Unit := do
  clear
  append directory
  push (CodeUnit.ofByte Path.separator)
  append id
  appendBytes extension

/-- Puts the terminator behind the path and returns the path with it. -/
def terminated : Edit U capacity (List U) := do
  let start := (← get).length
  if start ≥ capacity then throw (.panic (.indexOutOfBounds start capacity))
  write start [CodeUnit.zero]
  let stop ← check (Word.add start 1)
  if stop > capacity then throw (.panic (.rangeStopOutOfBounds stop capacity))
  return (← get).cells.take stop

/-- The room that a dump's path takes in a directory of the given length, with its terminator. -/
def requiredUnits (directoryLength : Nat) : Except Panic Nat := do
  let sum ← Word.add directoryLength 1
  let sum ← Word.add sum idLength
  let sum ← Word.add sum extension.length
  Word.add sum 1

end CrashDump.PathBuffer.Checked
