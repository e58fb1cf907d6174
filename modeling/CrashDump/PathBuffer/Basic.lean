import CrashDump.CodeUnit

/-!
# Path buffers

A path buffer has a fixed number of cells, the first of which hold a path.  It never grows, so it
can be used where allocating is not safe.  An append that would leave no cell for a terminator is
refused and changes nothing.

* Building: `new`, `ofList?`, and the edits `clear`, `append`, `push` and `appendBytes`.
* Looking: `contents`, `isEmpty`, `terminated`, `debugText` and `debugLines`.

The cells beyond the contents keep whatever earlier edits left there.
-/

namespace CrashDump

/-- An append would exceed the capacity of a path buffer. -/
inductive CapacityError where
  | exceeded
deriving DecidableEq, Repr

/-- What a person is told. -/
def CapacityError.message : CapacityError → String
  | exceeded => "fixed path capacity exceeded"

/-- A path in a fixed number of cells. -/
structure PathBuffer (U : Type) (capacity : Nat) where
  /-- All cells, those in use first. -/
  cells : List U
  /-- How many cells the path takes. -/
  length : Nat
  cells_length : cells.length = capacity

namespace PathBuffer

variable {U : Type} {capacity : Nat}

/-- A change of a buffer that may run out of capacity.  The changes made before it did so stay. -/
abbrev Edit (U : Type) (capacity : Nat) := EStateM CapacityError (PathBuffer U capacity)

/-! ## Looking at a buffer -/

/-- The path in the buffer. -/
def contents (buffer : PathBuffer U capacity) : List U :=
  buffer.cells.take buffer.length

/-- The buffer holds no path. -/
def isEmpty (buffer : PathBuffer U capacity) : Bool :=
  buffer.length = 0

/-! ## Writing cells -/

/-- Overwrites the cells from `start` on. -/
def write (buffer : PathBuffer U capacity) (start : Nat) (units : List U)
    (fits : start + units.length ≤ capacity) : PathBuffer U capacity where
  cells := buffer.cells.take start ++ units ++ buffer.cells.drop (start + units.length)
  length := buffer.length
  cells_length := by
    have := buffer.cells_length
    simp
    omega

@[simp] theorem length_write (buffer : PathBuffer U capacity) (start : Nat) (units : List U)
    (fits : start + units.length ≤ capacity) :
    (buffer.write start units fits).length = buffer.length := rfl

/-! ## Building a buffer -/

/-- Forgets the path. -/
def cleared (buffer : PathBuffer U capacity) : PathBuffer U capacity :=
  { buffer with length := 0 }

/-- Forgets the path. -/
def clear : Edit U capacity Unit := modify cleared

/-- Adds units to the path. -/
def append (units : List U) : Edit U capacity Unit := fun buffer =>
  if h : buffer.length + units.length + 1 ≤ capacity then
    .ok () { buffer.write buffer.length units (by omega) with
      length := buffer.length + units.length }
  else
    .error .exceeded buffer

/-- Adds one unit to the path. -/
def push (unit : U) : Edit U capacity Unit := append [unit]

section

variable [CodeUnit U]

/-- An empty buffer. -/
def new : PathBuffer U capacity where
  cells := List.replicate capacity CodeUnit.zero
  length := 0
  cells_length := List.length_replicate

/-- The default buffer is a new one. -/
instance : Inhabited (PathBuffer U capacity) := ⟨new⟩

/-- Adds bytes, each widened to a unit, to the path. -/
def appendBytes (bytes : List UInt8) : Edit U capacity Unit :=
  append (bytes.map CodeUnit.ofByte)

/-- A buffer that holds the given path. -/
def ofList? (units : List U) : Option (PathBuffer U capacity) :=
  match (append units).run (new : PathBuffer U capacity) with
  | .ok _ buffer => some buffer
  | .error _ _ => none

/-- Puts the terminator behind the path: the path with its terminator, and the buffer.  A buffer of
no cells has no room for one. -/
def terminated (buffer : PathBuffer U capacity) : List U × PathBuffer U capacity :=
  if h : buffer.length + 1 ≤ capacity then
    let buffer := buffer.write buffer.length [CodeUnit.zero] h
    (buffer.cells.take (buffer.length + 1), buffer)
  else
    (buffer.contents, buffer)

/-! ## Text for debugging -/

/-- The numbers of the units, in brackets. -/
def debugText (buffer : PathBuffer U capacity) : String :=
  "[" ++ ", ".intercalate (buffer.contents.map fun u => toString (CodeUnit.toNat u)) ++ "]"

/-- The numbers of the units, in brackets, each on a line of its own. -/
def debugLines (buffer : PathBuffer U capacity) : String :=
  match buffer.contents with
  | [] => "[]"
  | units =>
    "[\n" ++ String.join (units.map fun u => "    " ++ toString (CodeUnit.toNat u) ++ ",\n") ++ "]"

end

/-! ## What each edit does to the contents -/

@[simp] theorem contents_cleared (buffer : PathBuffer U capacity) :
    buffer.cleared.contents = [] := by
  simp [cleared, contents]

@[simp] theorem contents_new [CodeUnit U] : (new : PathBuffer U capacity).contents = [] := by
  simp [new, contents]

end PathBuffer

end CrashDump
