import CrashDump.Proofs.Bridge
import CrashDump.Target

/-!
# What a crash does by way of a target

However a target keeps the name of its next dump, a crash has the same effect: the dump is written
to the path that its directory and its id make up, and that path is reported whole.

* `DumpFile.openFor_openingUnits`: the terminator makes no difference to the file that is opened.
* `NextDump.Names`: what is kept is the name of the dump with a given id.  It holds of the first
  dump (`names_first`) and of the next one (`names_rename`).
* `Target.fault_eq`: the effect of a crash.
-/

namespace CrashDump

/-! ## Opening the file -/

namespace PathBuffer

variable {U : Type} {capacity : Nat} [CodeUnit U]

/-- The terminated path is the path with the terminator, or without one if there is no room. -/
theorem terminated_cases (buffer : PathBuffer U capacity) :
    buffer.terminated.1 = buffer.contents ++ [CodeUnit.zero] ∨
      buffer.terminated.1 = buffer.contents := by
  rcases Nat.lt_or_ge buffer.length capacity with hlt | hge
  · exact .inl (terminated_of_lt hlt).1
  · right
    rw [terminated, dif_neg (Nat.not_le.mpr (Nat.lt_succ_of_le hge))]

end PathBuffer

namespace DumpFile

/-- The system reads a path up to its first nul, so that a terminator adds nothing. -/
@[simp] theorem upToNul_append_nul (bytes : List UInt8) : upToNul (bytes ++ [0]) = upToNul bytes := by
  induction bytes with
  | nil => rfl
  | cons b rest ih =>
    simp only [upToNul, List.cons_append, List.takeWhile_cons] at ih ⊢
    rw [ih]

theorem upToNul_terminated {capacity : Nat} (buffer : PathBuffer UInt8 capacity) :
    upToNul buffer.terminated.1 = upToNul buffer.contents := by
  rcases buffer.terminated_cases with h | h
  · rw [h]
    exact upToNul_append_nul buffer.contents
  · rw [h]

/-- A path in a buffer is opened as the path that it is. -/
theorem openFor_openingUnits (p : Platform) (buffer : PathBuffer p.PathUnit p.maxPathUnits)
    (files : FileSystem) :
    openFor p (Target.openingUnits p buffer) files = openFor p buffer.contents files := by
  cases p with
  | linux => simp only [openFor, Target.openingUnits, upToNul_terminated]
  | mac => simp only [openFor, Target.openingUnits, upToNul_terminated]
  | windows => rfl

theorem write_openingUnits (p : Platform) (buffer : PathBuffer p.PathUnit p.maxPathUnits)
    (crash : CrashContext) (outcome : DumpOutcome) (files : FileSystem) :
    write p (Target.openingUnits p buffer) crash outcome files =
      write p buffer.contents crash outcome files := by
  simp only [write, openFor_openingUnits]

end DumpFile

/-! ## The name of the next dump -/

/-- A directory that leaves room for a dump's name leaves room for its path. -/
theorem room_of_requiredUnits_le {U : Type} {capacity : Nat} [CodeUnit U] {directory : List U}
    (id : Uuid) (fits : requiredUnits directory.length ≤ capacity) :
    directory.length + (id.units : List U).length + 6 ≤ capacity := by
  rw [requiredUnits_eq] at fits
  rw [Uuid.length_units]
  omega

namespace NextDump

variable {U : Type} {capacity : Nat} [CodeUnit U]

/-- This is the name of the dump with an id in a directory. -/
def Names (directory : List U) (id : Uuid) : NextDump U capacity → Prop
  | .composed path => path.contents = dumpPath directory id.units
  | .named other => other = id

theorem contents_recompose (path : PathBuffer U capacity) {directory : List U} (id : Uuid)
    (fits : requiredUnits directory.length ≤ capacity) :
    (recompose path directory id).contents = dumpPath directory id.units := by
  obtain ⟨after, hrun, hcontents⟩ :=
    PathBuffer.run_compose_of_le path (room_of_requiredUnits_le id fits)
  simp only [recompose, hrun, hcontents]

theorem names_rename (next : NextDump U capacity) {directory : List U} (id : Uuid)
    (fits : requiredUnits directory.length ≤ capacity) :
    (next.rename directory id).Names directory id := by
  cases next with
  | composed path => exact contents_recompose path id fits
  | named other => rfl

theorem names_first (p : Platform) {directory : List p.PathUnit} (id : Uuid)
    (fits : requiredUnits directory.length ≤ p.maxPathUnits) :
    (first p directory id).Names directory id := by
  cases p with
  | linux => exact contents_recompose .new id fits
  | mac => rfl
  | windows => rfl

end NextDump

/-! ## A crash -/

namespace Target

variable {p : Platform}

/-- A crash has the dump written to the target's path and reports that path. -/
theorem fault_eq {target : Target p} {id : Uuid}
    (names : target.next.Names target.directory id)
    (fits : requiredUnits target.directory.length ≤ p.maxPathUnits) (crash : CrashContext)
    (outcome : DumpOutcome) (files : FileSystem) :
    target.fault crash outcome files =
      let path := dumpPath target.directory id.units
      let written := DumpFile.write p path crash outcome files
      ⟨written.2.1, written.2.2, Bridge.deliverComplete target.context path written.1⟩ := by
  unfold fault
  cases hnext : target.next with
  | composed path =>
    rw [hnext] at names
    have hcontents : path.contents = dumpPath target.directory id.units := names
    simp only [DumpFile.write_openingUnits, hcontents]
  | named other =>
    rw [hnext] at names
    have hid : other = id := names
    subst hid
    have room := room_of_requiredUnits_le other fits
    obtain ⟨buffer, hrun, hcontents⟩ := PathBuffer.run_compose_of_le
      (PathBuffer.new : PathBuffer p.PathUnit p.maxPathUnits) room
    simp only [hrun, DumpFile.write_openingUnits, hcontents, Bridge.deliverJoined_of_le room]

end Target

end CrashDump
