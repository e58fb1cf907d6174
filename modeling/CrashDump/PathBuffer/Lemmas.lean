import CrashDump.PathBuffer.Compose

/-!
# What edits do to the contents of a path buffer

There are two groups.

* Appending.  An append succeeds just when the new contents leave a cell free, and then adds to the
  contents (`run_append_of_le`); otherwise nothing changes (`run_append_of_lt`).
* Terminating.  The terminator goes into the cell behind the contents, which stay as they are
  (`terminated_of_lt`).
-/

namespace CrashDump.PathBuffer

variable {U : Type} {capacity : Nat}

/-! ## Appending -/

/-- Units written behind the path are found there. -/
theorem take_write (buffer : PathBuffer U capacity) (units : List U)
    (fits : buffer.length + units.length ≤ capacity) :
    (buffer.write buffer.length units fits).cells.take (buffer.length + units.length) =
      buffer.contents ++ units := by
  have hcells := buffer.cells_length
  have hlength : (buffer.cells.take buffer.length ++ units).length =
      buffer.length + units.length := by
    rw [List.length_append, List.length_take]
    omega
  simp only [contents, write]
  rw [List.take_append_of_le_length (Nat.le_of_eq hlength.symm),
    List.take_of_length_le (Nat.le_of_eq hlength)]

/-- The path itself stays. -/
theorem contents_write (buffer : PathBuffer U capacity) (units : List U)
    (fits : buffer.length + units.length ≤ capacity) :
    (buffer.write buffer.length units fits).contents = buffer.contents := by
  have hcells := buffer.cells_length
  have hlength : (buffer.cells.take buffer.length).length = buffer.length := by
    rw [List.length_take]
    omega
  simp only [contents, write]
  rw [List.append_assoc, List.take_append_of_le_length (Nat.le_of_eq hlength.symm),
    List.take_of_length_le (Nat.le_of_eq hlength)]

/-- With a cell to spare the units are added. -/
theorem run_append_of_le (buffer : PathBuffer U capacity) (units : List U)
    (h : buffer.length + units.length + 1 ≤ capacity) :
    ∃ after, (append units).run buffer = .ok () after ∧
      after.contents = buffer.contents ++ units ∧
      after.length = buffer.length + units.length := by
  refine ⟨{ buffer.write buffer.length units (by omega) with
    length := buffer.length + units.length }, ?_, ?_, rfl⟩
  · simp only [append, EStateM.run, h, dif_pos]
  · exact buffer.take_write units (by omega)

/-- Without one nothing changes. -/
theorem run_append_of_lt {units : List U} {buffer : PathBuffer U capacity}
    (h : capacity < buffer.length + units.length + 1) :
    (append units).run buffer = .error .exceeded buffer := by
  simp [append, EStateM.run, Nat.not_le.mpr h]

variable [CodeUnit U]

/-! ## Terminating -/

/-- With a cell to spare the terminator is put behind the path, which stays. -/
theorem terminated_of_lt {buffer : PathBuffer U capacity} (h : buffer.length < capacity) :
    buffer.terminated.1 = buffer.contents ++ [CodeUnit.zero] ∧
      buffer.terminated.2.contents = buffer.contents ∧
      buffer.terminated.2.length = buffer.length := by
  have hroom : buffer.length + 1 ≤ capacity := h
  simp only [terminated, hroom, dif_pos]
  exact ⟨buffer.take_write [CodeUnit.zero] hroom, buffer.contents_write [CodeUnit.zero] hroom, rfl⟩

end CrashDump.PathBuffer
