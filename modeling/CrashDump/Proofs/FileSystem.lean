import CrashDump.FileSystem.Operations
import CrashDump.Proofs.Path

/-!
# Opening and finding a file

A file that is opened by a path is found by that path afterwards, and nothing else is touched.  If
it cannot be opened, the path leads to no file.

The paths here end in the name of an entry behind a separator, so that the file is looked for in
the directory that the path in front leads to.

* `Keeps`: a change of the tree that paths survive.
* `slot?_eq_some_iff` and `resolve_eq_ok_iff`: where a path leads, free or not.
* `Puts`: a file is put somewhere, and nothing else changes.
* `puts_of_openFile` and `Puts.file?_eq`: a file that is opened is put there and found there.
* `file?_of_openFile_error`: where none can be opened, none is found.
-/

namespace CrashDump.FileSystem

variable {files after : FileSystem} {location directory : Location} {name : List UInt8}
  {front : Path}

/-! ## Following names -/

theorem requireDirectory_of_directory (h : files.node? location = some .directory) :
    files.requireDirectory location = .ok () := by
  unfold requireDirectory
  rw [h]

theorem requireDirectory_eq_ok_iff :
    files.requireDirectory location = .ok () ↔ files.node? location = some .directory := by
  constructor
  · intro h
    unfold requireDirectory at h
    split at h
    · assumption
    · cases h
    · cases h
  · exact requireDirectory_of_directory

/-- Only a directory has entries. -/
theorem directory_of_entry (h : files.entry directory name = .ok location) :
    files.node? directory = some .directory := by
  rw [← requireDirectory_eq_ok_iff]
  unfold entry at h
  cases hrequire : files.requireDirectory directory with
  | error cause =>
    rw [hrequire] at h
    cases h
  | ok => rfl

/-- Where the entry of a directory lies does not depend on anything else. -/
theorem entry_congr (h : files.node? directory = some .directory)
    (h' : after.node? directory = some .directory) :
    after.entry directory name = files.entry directory name := by
  unfold entry
  rw [requireDirectory_of_directory h, requireDirectory_of_directory h']

theorem entry_of_isEntry (entry : Path.IsEntry name)
    (h : files.node? directory = some .directory) :
    files.entry directory name = .ok (directory ++ [name]) := by
  have hshort : ¬ name.length > maxName := Nat.not_lt.mpr entry.short
  unfold FileSystem.entry
  rw [requireDirectory_of_directory h, if_neg entry.ne_dot, if_neg entry.ne_dotDot, if_neg hshort]
  rfl

theorem walk_append (start : Location) (first second : List (List UInt8)) :
    files.walk start (first ++ second) =
      (files.walk start first >>= fun next => files.walk next second) := by
  induction first generalizing start with
  | nil => rfl
  | cons name rest ih =>
    rw [List.cons_append, walk, walk]
    cases files.entry start name with
    | error cause => rfl
    | ok next =>
      by_cases hnext : files.node? next = none
      · simp only [bind, Except.bind, hnext, if_true]
        rfl
      · simp only [bind, Except.bind, hnext, if_false]
        exact ih next

/-! ## Changes that paths survive -/

/-- Directories stay what they are, and nothing vanishes. -/
structure Keeps (files after : FileSystem) : Prop where
  workingDirectory : after.workingDirectory = files.workingDirectory
  directory : ∀ location, files.node? location = some .directory →
    after.node? location = some .directory
  present : ∀ location, files.node? location ≠ none → after.node? location ≠ none

namespace Keeps

theorem start (keeps : Keeps files after) (path : Path) : after.start path = files.start path := by
  unfold FileSystem.start
  rw [keeps.workingDirectory]

theorem entry (keeps : Keeps files after) (h : files.entry directory name = .ok location) :
    after.entry directory name = .ok location := by
  have hdirectory := directory_of_entry h
  rw [entry_congr hdirectory (keeps.directory _ hdirectory), h]

theorem walk (keeps : Keeps files after) {start : Location} {names : List (List UInt8)}
    (h : files.walk start names = .ok location) : after.walk start names = .ok location := by
  induction names generalizing start with
  | nil => exact h
  | cons name rest ih =>
    rw [FileSystem.walk] at h ⊢
    cases hentry : files.entry start name with
    | error cause =>
      rw [hentry] at h
      cases h
    | ok next =>
      rw [keeps.entry hentry]
      rw [hentry] at h
      by_cases hnext : files.node? next = none
      · simp only [bind, Except.bind, hnext, if_true] at h
        cases h
      · simp only [bind, Except.bind, hnext, keeps.present next hnext, if_false] at h ⊢
        exact ih h

end Keeps

/-! ## Where a path leads -/

/-- The directory in which the last name of a path is looked up. -/
def lookupDirectory (files : FileSystem) (path : Path) : Except IoError Location := do
  files.walk (← files.start path) path.names.dropLast

theorem Keeps.lookupDirectory (keeps : Keeps files after) {path : Path}
    (h : files.lookupDirectory path = .ok directory) :
    after.lookupDirectory path = .ok directory := by
  unfold FileSystem.lookupDirectory at h ⊢
  rw [keeps.start]
  cases hstart : files.start path with
  | error cause =>
    rw [hstart] at h
    cases h
  | ok start =>
    rw [hstart] at h
    exact keeps.walk h

theorem entry_of_not_directory (name : List UInt8) (h : files.node? directory ≠ some .directory) :
    ∃ cause, files.entry directory name = .error cause := by
  cases hentry : files.entry directory name with
  | error cause => exact ⟨cause, rfl⟩
  | ok location => exact absurd (directory_of_entry hentry) h

/-- A path that ends in the name of an entry leads to a place in the directory that the path in
front leads to. -/
theorem slot?_eq_some_iff (entry : Path.IsEntry name) :
    files.slot? (front ++ Path.separator :: name) = .ok (some location) ↔
      ∃ directory, files.lookupDirectory (front ++ Path.separator :: name) = .ok directory ∧
        files.node? directory = some .directory ∧ location = directory ++ [name] := by
  unfold slot? lookupDirectory
  rw [Path.endsInDots_append_entry front entry, Path.names_append_entry front entry,
    List.dropLast_concat, List.getLast?_concat]
  cases files.start (front ++ Path.separator :: name) with
  | error cause => simp [bind, Except.bind]
  | ok start =>
    simp only [bind, Except.bind]
    cases files.walk start (Path.names front) with
    | error cause => simp
    | ok directory =>
      by_cases hdirectory : files.node? directory = some .directory
      · simp [entry_of_isEntry entry hdirectory, hdirectory, pure, Except.pure, eq_comm]
      · obtain ⟨cause, hcause⟩ := entry_of_not_directory name hdirectory
        simp [hcause, hdirectory]

theorem walk_entry_eq_ok_iff (entry : Path.IsEntry name) :
    files.walk directory [name] = .ok location ↔
      (files.node? directory = some .directory ∧ location = directory ++ [name]) ∧
        files.node? location ≠ none := by
  unfold walk
  by_cases hdirectory : files.node? directory = some .directory
  · rw [entry_of_isEntry entry hdirectory]
    simp only [bind, Except.bind, hdirectory, true_and]
    by_cases hnode : files.node? (directory ++ [name]) = none
    · rw [if_pos hnode]
      constructor
      · intro h
        cases h
      · intro h
        rw [h.1] at h
        exact absurd hnode h.2
    · rw [if_neg hnode]
      constructor
      · intro h
        cases h
        exact ⟨rfl, hnode⟩
      · intro h
        rw [h.1]
        rfl
  · obtain ⟨cause, hcause⟩ := entry_of_not_directory name hdirectory
    rw [hcause]
    constructor
    · intro h
      cases h
    · intro h
      exact absurd h.1.1 hdirectory

/-- The place is found if there is something. -/
theorem resolve_eq_ok_iff (entry : Path.IsEntry name) :
    files.resolve (front ++ Path.separator :: name) = .ok location ↔
      files.slot? (front ++ Path.separator :: name) = .ok (some location) ∧
        files.node? location ≠ none := by
  rw [slot?_eq_some_iff entry]
  unfold resolve lookupDirectory
  rw [Path.names_append_entry front entry, List.dropLast_concat]
  cases files.start (front ++ Path.separator :: name) with
  | error cause => simp [bind, Except.bind]
  | ok start =>
    simp only [bind, Except.bind]
    rw [walk_append]
    cases files.walk start (Path.names front) with
    | error cause => simp [bind, Except.bind]
    | ok directory =>
      simp only [bind, Except.bind, Except.ok.injEq, exists_eq_left']
      exact walk_entry_eq_ok_iff entry

theorem Keeps.slot? (keeps : Keeps files after) (entry : Path.IsEntry name)
    (h : files.slot? (front ++ Path.separator :: name) = .ok (some location)) :
    after.slot? (front ++ Path.separator :: name) = .ok (some location) := by
  obtain ⟨directory, hlookup, hdirectory, hlocation⟩ := (slot?_eq_some_iff entry).mp h
  exact (slot?_eq_some_iff entry).mpr
    ⟨directory, keeps.lookupDirectory hlookup, keeps.directory _ hdirectory, hlocation⟩

/-! ## Files -/

/-- A file with the given contents is put at a place, which held no directory, and nothing else is
touched. -/
structure Puts (files after : FileSystem) (location : Location) (contents : List UInt8) : Prop where
  workingDirectory : after.workingDirectory = files.workingDirectory
  before : files.node? location ≠ some .directory
  put : ∃ mode, after.node? location = some (.file mode contents)
  others : ∀ other, other ≠ location → after.node? other = files.node? other

theorem Puts.keeps {contents : List UInt8} (puts : Puts files after location contents) :
    Keeps files after where
  workingDirectory := puts.workingDirectory
  directory other h := by
    have hne : other ≠ location := by
      intro he
      rw [he] at h
      exact puts.before h
    rw [puts.others other hne, h]
  present other h := by
    by_cases hother : other = location
    · obtain ⟨mode, hput⟩ := puts.put
      rw [hother, hput]
      exact Option.some_ne_none _
    · rw [puts.others other hother]
      exact h

/-- Files are never put at the root. -/
theorem node?_insert (files : FileSystem) (location other : Location) (node : Node)
    (h : location ≠ []) :
    ({ files with nodes := files.nodes.insert location node } : FileSystem).node? other =
      if other = location then some node else files.node? other := by
  unfold node?
  rw [Table.get?_insert]
  by_cases hroot : other = []
  · have hne : other ≠ location := fun he => h (he ▸ hroot)
    rw [if_pos hroot, if_neg hne, if_pos hroot]
  · rw [if_neg hroot, if_neg hroot]

theorem ne_nil_of_slot? (entry : Path.IsEntry name)
    (h : files.slot? (front ++ Path.separator :: name) = .ok (some location)) : location ≠ [] := by
  obtain ⟨directory, -, -, rfl⟩ := (slot?_eq_some_iff entry).mp h
  simp

/-- Putting a file where none of the paths leads through keeps them all. -/
theorem puts_insert (files : FileSystem) (mode : Nat) (contents : List UInt8)
    (hroot : location ≠ []) (h : files.node? location ≠ some .directory) :
    Puts files { files with nodes := files.nodes.insert location (.file mode contents) } location
      contents where
  workingDirectory := rfl
  before := h
  put := ⟨mode, by rw [node?_insert files _ _ _ hroot, if_pos rfl]⟩
  others other hne := by rw [node?_insert files _ _ _ hroot, if_neg hne]

/-- What is opened is an empty file at the place that the path leads to. -/
theorem puts_of_openFile {mode : Nat} (entry : Path.IsEntry name)
    (h : files.openFile (front ++ Path.separator :: name) mode = .ok (location, after)) :
    files.slot? (front ++ Path.separator :: name) = .ok (some location) ∧
      Puts files after location [] := by
  unfold openFile at h
  cases hslot : files.slot? (front ++ Path.separator :: name) with
  | error cause =>
    rw [hslot] at h
    cases h
  | ok slot =>
    cases slot with
    | none =>
      rw [hslot] at h
      cases h
    | some place =>
      have hroot := ne_nil_of_slot? entry hslot
      rw [hslot] at h
      simp only [bind, Except.bind, Path.endsInSeparator_append_entry front entry,
        Bool.false_eq_true, if_false] at h
      split at h
      · cases h
      · rename_i mode contents hnode
        cases h
        exact ⟨rfl, puts_insert files _ _ hroot (by rw [hnode]; exact fun h => nomatch h)⟩
      · rename_i hnode
        cases h
        exact ⟨rfl, puts_insert files _ _ hroot (by rw [hnode]; exact fun h => nomatch h)⟩

/-- If no file can be opened, the path leads to none. -/
theorem file?_of_openFile_error {mode : Nat} {cause : IoError} (entry : Path.IsEntry name)
    (h : files.openFile (front ++ Path.separator :: name) mode = .error cause) :
    files.file? (front ++ Path.separator :: name) = none := by
  unfold file?
  split
  · rename_i place _ hresolve
    obtain ⟨hslot, hpresent⟩ := (resolve_eq_ok_iff entry).mp hresolve
    unfold openFile at h
    rw [hslot] at h
    simp only [bind, Except.bind, Path.endsInSeparator_append_entry front entry,
      Bool.false_eq_true, if_false] at h
    cases hnode : files.node? place with
    | none => exact absurd hnode hpresent
    | some node =>
      cases node with
      | directory => rfl
      | file mode contents =>
        rw [hnode] at h
        cases h
  · rfl

/-- A file that was put where a path leads is found there. -/
theorem Puts.file?_eq {contents : List UInt8} (puts : Puts files after location contents)
    (entry : Path.IsEntry name) (hnul : 0 ∉ front ++ Path.separator :: name)
    (h : files.slot? (front ++ Path.separator :: name) = .ok (some location)) :
    after.resolve (front ++ Path.separator :: name) = .ok location ∧
      after.file? (front ++ Path.separator :: name) = some contents := by
  obtain ⟨mode, hput⟩ := puts.put
  have hpresent : after.node? location ≠ none := by
    rw [hput]
    exact Option.some_ne_none _
  have hresolve := (resolve_eq_ok_iff entry).mpr ⟨puts.keeps.slot? entry h, hpresent⟩
  refine ⟨hresolve, ?_⟩
  have hrefuse : refuseNul (front ++ Path.separator :: name) = .ok () := if_neg hnul
  unfold file?
  rw [hrefuse, hresolve]
  simp only [hput]

/-- Replacing what a file holds that was put there is putting another. -/
theorem Puts.setContents {contents : List UInt8} (puts : Puts files after location contents)
    (hroot : location ≠ []) (other : List UInt8) :
    Puts files (after.setContents location other) location other := by
  obtain ⟨mode, hput⟩ := puts.put
  have hafter : after.setContents location other =
      { after with nodes := after.nodes.insert location (.file mode other) } := by
    unfold FileSystem.setContents
    rw [hput]
  rw [hafter]
  constructor
  · exact puts.workingDirectory
  · exact puts.before
  · exact ⟨mode, by rw [node?_insert after _ _ _ hroot, if_pos rfl]⟩
  · intro place hne
    rw [node?_insert after _ _ _ hroot, if_neg hne, puts.others place hne]

end CrashDump.FileSystem
