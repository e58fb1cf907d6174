import CrashDump.Proofs.FileSystem

/-!
# Files but for their permission bits

A dump that is opened with the system call gets other permission bits than one that is opened as
programs do.  No path is followed differently for that: two trees that differ in permission bits
alone stay so when the same file is opened in both.

* `Alike`: the two trees differ in permission bits alone.
* `Alike.slot?`: a path leads to the same place in both.
* `Alike.openFile_cases` and `Alike.setContents`: opening and writing keep them alike.
-/

namespace CrashDump

/-- What a node is but for its permission bits: a directory, or a file with its contents. -/
def Node.contents? : Node → Option (List UInt8)
  | .directory => none
  | .file _ contents => some contents

namespace FileSystem

/-- Two trees are the same but for the permission bits of their files. -/
structure Alike (files other : FileSystem) : Prop where
  workingDirectory : other.workingDirectory = files.workingDirectory
  contents : ∀ location,
    (other.node? location).map Node.contents? = (files.node? location).map Node.contents?

namespace Alike

variable {files other : FileSystem}

theorem refl (files : FileSystem) : Alike files files := ⟨rfl, fun _ => rfl⟩

/-- The three things that there may be at a place. -/
theorem node?_cases (alike : Alike files other) (location : Location) :
    (files.node? location = none ∧ other.node? location = none) ∨
    (files.node? location = some .directory ∧ other.node? location = some .directory) ∨
    ∃ first second contents, files.node? location = some (.file first contents) ∧
      other.node? location = some (.file second contents) := by
  have hcontents := alike.contents location
  cases hfiles : files.node? location with
  | none =>
    rw [hfiles] at hcontents
    exact .inl ⟨rfl, Option.map_eq_none_iff.mp hcontents⟩
  | some node =>
    rw [hfiles] at hcontents
    obtain ⟨counterpart, hother, hnode⟩ := Option.map_eq_some_iff.mp hcontents
    cases node with
    | directory =>
      cases counterpart with
      | directory => exact .inr (.inl ⟨rfl, hother⟩)
      | file mode contents => cases hnode
    | file mode contents =>
      cases counterpart with
      | directory => cases hnode
      | file second found =>
        cases hnode
        exact .inr (.inr ⟨mode, second, contents, rfl, hother⟩)

theorem node?_eq_none_iff (alike : Alike files other) (location : Location) :
    other.node? location = none ↔ files.node? location = none := by
  rcases alike.node?_cases location with ⟨hfiles, hother⟩ | ⟨hfiles, hother⟩ |
    ⟨_, _, _, hfiles, hother⟩ <;> simp [hfiles, hother]

/-! ## Following a path -/

theorem requireDirectory (alike : Alike files other) (location : Location) :
    other.requireDirectory location = files.requireDirectory location := by
  unfold FileSystem.requireDirectory
  rcases alike.node?_cases location with ⟨hfiles, hother⟩ | ⟨hfiles, hother⟩ |
    ⟨_, _, _, hfiles, hother⟩ <;> rw [hfiles, hother]

theorem entry (alike : Alike files other) (directory : Location) (name : List UInt8) :
    other.entry directory name = files.entry directory name := by
  unfold FileSystem.entry
  rw [alike.requireDirectory]

theorem walk (alike : Alike files other) (start : Location) (names : List (List UInt8)) :
    other.walk start names = files.walk start names := by
  induction names generalizing start with
  | nil => rfl
  | cons name rest ih =>
    unfold FileSystem.walk
    rw [alike.entry]
    cases files.entry start name with
    | error cause => rfl
    | ok next =>
      simp only [bind, Except.bind, alike.node?_eq_none_iff, ih]

theorem slot? (alike : Alike files other) (path : Path) : other.slot? path = files.slot? path := by
  have hstart : other.start path = files.start path := by
    unfold FileSystem.start
    rw [alike.workingDirectory]
  unfold FileSystem.slot?
  rw [hstart]
  simp only [alike.walk, alike.entry]

/-! ## Opening and writing -/

/-- The same is put at a place of both, but for its permission bits. -/
theorem insert (alike : Alike files other) (location : Location) {first second : Node}
    (same : second.contents? = first.contents?) :
    Alike { files with nodes := files.nodes.insert location first }
      { other with nodes := other.nodes.insert location second } where
  workingDirectory := alike.workingDirectory
  contents place := by
    have hplace := alike.contents place
    unfold node? at hplace ⊢
    by_cases hroot : place = []
    · rw [if_pos hroot, if_pos hroot]
    · rw [if_neg hroot, if_neg hroot] at hplace ⊢
      simp only [Table.get?_insert]
      split
      · exact congrArg some same
      · exact hplace

/-- Whatever permission bits a new file would get, the same file is opened in both, or none for the
same cause. -/
theorem openFile_cases (alike : Alike files other) (path : Path) (first second : Nat) :
    (∃ cause, files.openFile path first = .error cause ∧
      other.openFile path second = .error cause) ∨
    ∃ location after counterpart, files.openFile path first = .ok (location, after) ∧
      other.openFile path second = .ok (location, counterpart) ∧ Alike after counterpart := by
  unfold FileSystem.openFile
  rw [alike.slot?]
  cases files.slot? path with
  | error cause => exact .inl ⟨cause, rfl, rfl⟩
  | ok slot =>
    cases slot with
    | none => exact .inl ⟨_, rfl, rfl⟩
    | some location =>
      simp only [bind, Except.bind]
      by_cases hseparator : path.endsInSeparator = true
      · rw [if_pos hseparator, if_pos hseparator]
        exact .inl ⟨_, rfl, rfl⟩
      · rw [if_neg hseparator, if_neg hseparator]
        rcases alike.node?_cases location with ⟨hfiles, hother⟩ | ⟨hfiles, hother⟩ |
          ⟨_, _, _, hfiles, hother⟩
        · rw [hfiles, hother]
          exact .inr ⟨location, _, _, rfl, rfl, alike.insert location rfl⟩
        · rw [hfiles, hother]
          exact .inl ⟨_, rfl, rfl⟩
        · rw [hfiles, hother]
          exact .inr ⟨location, _, _, rfl, rfl, alike.insert location rfl⟩

theorem setContents (alike : Alike files other) (location : Location) (contents : List UInt8) :
    Alike (files.setContents location contents) (other.setContents location contents) := by
  unfold FileSystem.setContents
  rcases alike.node?_cases location with ⟨hfiles, hother⟩ | ⟨hfiles, hother⟩ |
    ⟨_, _, _, hfiles, hother⟩
  · rw [hfiles, hother]
    exact alike
  · rw [hfiles, hother]
    exact alike
  · rw [hfiles, hother]
    exact alike.insert location rfl

end Alike

end FileSystem

end CrashDump
