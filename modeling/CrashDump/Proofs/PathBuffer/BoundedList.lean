import CrashDump.PathBuffer.Checked
import CrashDump.PathBuffer.Lemmas
import CrashDump.Proofs.PathBuffer.Simulation

/-!
# Path buffers as bounded lists

Whoever looks at a path buffer sees a list: its contents.  Each edit of the buffer is an edit of this
list, which is refused if the list and one more unit would not fit in the capacity.  What the cells
hold beyond the contents makes no difference.

* `BoundedList`: the edits of a list.
* `PathBuffer.Shows`: what is seen of a buffer is a list.
* `PathBuffer.matches_append` and so on: the edits of buffers match those of lists.
-/

namespace CrashDump

variable {U : Type} {capacity : Nat}

/-! ## Lists -/

namespace BoundedList

open PathBuffer.Checked (Stop)

/-- An edit of a list that stops as one of a buffer does. -/
abbrev Edit (U : Type) := EStateM Stop (List U)

/-- Forgets the list. -/
def clear : Edit U Unit := set ([] : List U)

/-- Adds units, if they leave room for one more. -/
def append (capacity : Nat) (units : List U) : Edit U Unit := fun list =>
  if list.length + units.length + 1 ≤ capacity then .ok () (list ++ units)
  else .error (.capacity .exceeded) list

/-- Adds one unit. -/
def push (capacity : Nat) (unit : U) : Edit U Unit := append capacity [unit]

/-- A list of units, if they leave room for one more. -/
def ofList? (capacity : Nat) (units : List U) : Option (List U) :=
  if units.length + 1 ≤ capacity then some units else none

section

variable [CodeUnit U]

/-- Adds bytes, each widened to a unit. -/
def appendBytes (capacity : Nat) (bytes : List UInt8) : Edit U Unit :=
  append capacity (bytes.map CodeUnit.ofByte)

/-- Puts the path of the dump `id` in a directory in place of the list. -/
def compose (capacity : Nat) (directory id : List U) : Edit U Unit := do
  clear
  append capacity directory
  push capacity (CodeUnit.ofByte Path.separator)
  append capacity id
  appendBytes capacity extension

/-- The list with a terminator behind it.  Without any room there is none for the terminator. -/
def terminated (capacity : Nat) : Edit U (List U) := fun list =>
  if capacity = 0 then .error (.panic (.indexOutOfBounds 0 0)) list
  else .ok (list ++ [CodeUnit.zero]) list

end

theorem run_append_of_le {list units : List U} (h : list.length + units.length + 1 ≤ capacity) :
    (append capacity units).run list = .ok () (list ++ units) := if_pos h

theorem run_append_of_lt {list units : List U} (h : capacity < list.length + units.length + 1) :
    (append capacity units).run list = .error (.capacity .exceeded) list :=
  if_neg (Nat.not_le.mpr h)

end BoundedList

/-! ## What a buffer shows -/

namespace PathBuffer

open Checked (Stop)

/-- What is seen of the buffer is the list, and there is a cell left for its terminator unless there
is no cell at all. -/
structure Shows (buffer : PathBuffer U capacity) (list : List U) : Prop where
  contents : buffer.contents = list
  length : buffer.length = list.length
  isEmpty : buffer.isEmpty = list.isEmpty
  inside : list.length < capacity ∨ capacity = 0 ∧ list = []

theorem Shows.of_contents {buffer : PathBuffer U capacity} {list : List U}
    (contents : buffer.contents = list) (inside : buffer.length ≤ capacity - 1) :
    buffer.Shows list := by
  have hlength : buffer.length = list.length := by
    have hcells := buffer.cells_length
    rw [← contents, PathBuffer.contents, List.length_take]
    omega
  refine ⟨contents, hlength, ?_, ?_⟩
  · show decide (buffer.length = 0) = list.isEmpty
    rw [hlength]
    cases list <;> rfl
  · rcases Nat.eq_zero_or_pos capacity with hzero | hpos
    · refine .inr ⟨hzero, List.length_eq_zero_iff.mp ?_⟩
      omega
    · left
      omega

theorem Shows.length_le {buffer : PathBuffer U capacity} {list : List U}
    (shows : buffer.Shows list) : list.length ≤ capacity - 1 := by
  rcases shows.inside with hlt | ⟨hzero, rfl⟩
  · omega
  · exact Nat.zero_le _

/-- A buffer of length zero shows nothing, whatever its cells hold. -/
theorem shows_nil {buffer : PathBuffer U capacity} (h : buffer.length = 0) : buffer.Shows [] :=
  .of_contents (by rw [contents, h, List.take_zero]) (by omega)

/-! ## Edits -/

theorem matches_clear : Matches Shows
    ((clear : Edit U capacity Unit).adaptExcept Stop.capacity) BoundedList.clear :=
  fun _ _ _ => .ok () (shows_nil rfl)

theorem matches_append (units : List U) : Matches Shows
    ((append units : Edit U capacity Unit).adaptExcept Stop.capacity)
    (BoundedList.append capacity units) := by
  intro buffer list shows
  rw [EStateM.run_adaptExcept]
  rcases Nat.lt_or_ge capacity (list.length + units.length + 1) with hlt | hle
  · rw [run_append_of_lt (by rwa [shows.length]), BoundedList.run_append_of_lt hlt]
    exact .error _ shows
  · obtain ⟨after, hrun, hcontents, hlength⟩ :=
      run_append_of_le buffer units (by rwa [shows.length])
    rw [hrun, BoundedList.run_append_of_le hle]
    refine .ok () (.of_contents (by rw [hcontents, shows.contents]) ?_)
    rw [hlength, shows.length]
    omega

variable [CodeUnit U]

theorem matches_appendBytes (bytes : List UInt8) : Matches Shows
    ((appendBytes bytes : Edit U capacity Unit).adaptExcept Stop.capacity)
    (BoundedList.appendBytes capacity bytes) :=
  matches_append (bytes.map CodeUnit.ofByte)

theorem matches_compose (directory id : List U) : Matches Shows
    ((compose directory id : Edit U capacity Unit).adaptExcept Stop.capacity)
    (BoundedList.compose capacity directory id) := by
  simp only [compose, adaptExcept_bind]
  refine matches_clear.bind fun _ => (matches_append directory).bind fun _ =>
    (matches_append [CodeUnit.ofByte Path.separator]).bind fun _ => (matches_append id).bind fun _ =>
      matches_appendBytes extension

/-- Where there is room, the terminator is put behind the list, which stays. -/
theorem Shows.terminated {buffer : PathBuffer U capacity} {list : List U}
    (shows : buffer.Shows list) (room : 0 < capacity) :
    buffer.terminated.1 = list ++ [CodeUnit.zero] ∧ buffer.terminated.2.Shows list := by
  have hinside : buffer.length ≤ capacity - 1 := by
    rw [shows.length]
    exact shows.length_le
  have hroom : buffer.length < capacity := by omega
  obtain ⟨htext, hcontents, hlength⟩ := terminated_of_lt hroom
  rw [shows.contents] at htext hcontents
  exact ⟨htext, .of_contents hcontents (hlength ▸ hinside)⟩

theorem matches_terminated (room : 0 < capacity) : Matches Shows
    (fun buffer : PathBuffer U capacity => .ok buffer.terminated.1 buffer.terminated.2)
    (BoundedList.terminated capacity) := by
  intro buffer list shows
  obtain ⟨htext, hafter⟩ := shows.terminated room
  simp only [BoundedList.terminated, EStateM.run, htext, if_neg (Nat.pos_iff_ne_zero.mp room)]
  exact .ok _ hafter

end PathBuffer

end CrashDump
