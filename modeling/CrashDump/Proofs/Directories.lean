import CrashDump.Proofs.Components
import CrashDump.Proofs.FileSystem

/-!
# Directories that are made, and what is put in them

* `isDirectory_of_makeDirectories`: a path that is made leads to a directory.
* `resolve_of_slot?`: a file whose path is written behind a directory is put into that directory.
-/

namespace CrashDump.FileSystem

variable {files after : FileSystem} {location directory : Location} {name : List UInt8}
  {path front : Path}

/-! ## Making directories -/

theorem components_ne_nil (nonempty : path ≠ []) : path.components ≠ [] := by
  unfold Path.components
  cases h : path.isAbsolute with
  | true => simp
  | false =>
    cases hnames : path.names with
    | nil => exact absurd hnames (Path.names_ne_nil nonempty h)
    | cons first rest => simp

/-- A directory that is put somewhere is in no path's way. -/
theorem keeps_insert_directory (files : FileSystem) (hroot : location ≠ []) :
    Keeps files { files with nodes := files.nodes.insert location .directory } where
  workingDirectory := rfl
  directory other h := by
    rw [node?_insert files _ _ _ hroot]
    split
    · rfl
    · exact h
  present other h := by
    rw [node?_insert files _ _ _ hroot]
    split
    · exact Option.some_ne_none _
    · exact h

/-- A path leads to where its last name leads, from the directory that the others lead to. -/
theorem walk_of_slot? (h : files.slot? path = .ok (some location)) :
    ∃ start directory name init, files.start path = .ok start ∧ path.names = init ++ [name] ∧
      files.walk start init = .ok directory ∧ files.entry directory name = .ok location := by
  unfold slot? at h
  cases hstart : files.start path with
  | error cause =>
    rw [hstart] at h
    cases h
  | ok start =>
    cases hlast : path.names.getLast? with
    | none =>
      rw [hstart, hlast] at h
      simp only [bind, Except.bind] at h
      split at h <;> cases h
    | some name =>
      obtain ⟨init, hnames⟩ := List.getLast?_eq_some_iff.mp hlast
      rw [hstart, hlast, hnames, List.dropLast_concat] at h
      simp only [bind, Except.bind] at h
      cases hwalk : files.walk start init with
      | error cause =>
        rw [hwalk] at h
        cases h
      | ok directory =>
        cases hentry : files.entry directory name with
        | error cause =>
          simp only [hwalk, hentry] at h
          cases h
        | ok place =>
          simp only [hwalk, hentry, pure, Except.pure] at h
          split at h
          · cases h
          · cases h
            exact ⟨start, directory, name, init, rfl, hnames, hwalk, hentry⟩

theorem isDirectory_of_makeDirectory (h : files.makeDirectory path = .ok after) :
    after.isDirectory path = true := by
  unfold makeDirectory at h
  cases hslot : files.slot? path with
  | error cause =>
    rw [hslot] at h
    cases h
  | ok slot =>
    cases slot with
    | none =>
      rw [hslot] at h
      cases h
    | some location =>
      rw [hslot] at h
      simp only [bind, Except.bind] at h
      split at h
      · cases h
      · rename_i free
        cases h
        obtain ⟨start, directory, name, init, hstart, hnames, hwalk, hentry⟩ := walk_of_slot? hslot
        have hroot : location ≠ [] := by
          rintro rfl
          cases free
        have keeps := keeps_insert_directory files hroot
        have hnode := node?_insert files location location .directory hroot
        rw [if_pos rfl] at hnode
        have hresolve : resolve { files with nodes := files.nodes.insert location .directory } path =
            .ok location := by
          unfold resolve
          rw [keeps.start, hstart, hnames]
          simp only [bind, Except.bind]
          rw [walk_append, keeps.walk hwalk]
          simp only [bind, Except.bind, walk, keeps.entry hentry, hnode, reduceCtorEq, if_false]
        unfold isDirectory
        rw [hresolve]
        simp only [hnode, decide_true]

theorem isDirectory_of_tryMakeDirectory (h : files.tryMakeDirectory path = .ok after) :
    after.isDirectory path = true := by
  unfold tryMakeDirectory at h
  cases hrefuse : refuseNul path with
  | error cause =>
    rw [hrefuse] at h
    cases h
  | ok =>
    rw [hrefuse] at h
    exact isDirectory_of_makeDirectory h

theorem refuseNul_eq_ok_iff : refuseNul path = .ok () ↔ 0 ∉ path := by
  unfold refuseNul
  split <;> simp_all

theorem not_mem_of_tryMakeDirectory (h : files.tryMakeDirectory path = .ok after) : 0 ∉ path := by
  rw [← refuseNul_eq_ok_iff]
  unfold tryMakeDirectory at h
  cases hrefuse : refuseNul path with
  | error cause =>
    rw [hrefuse] at h
    cases h
  | ok => rfl

/-- What a program finds is a directory, and there is no nul in its path. -/
theorem of_findDirectory (h : (files.findDirectory path).isOk = true) :
    0 ∉ path ∧ files.isDirectory path = true := by
  unfold findDirectory at h
  cases hrefuse : refuseNul path with
  | error cause =>
    rw [hrefuse] at h
    cases h
  | ok =>
    refine ⟨refuseNul_eq_ok_iff.mp hrefuse, ?_⟩
    unfold isDirectory
    cases hresolve : files.resolve path with
    | error cause =>
      rw [hrefuse, hresolve] at h
      cases h
    | ok location =>
      cases hrequire : files.requireDirectory location with
      | error cause =>
        simp only [hrefuse, hresolve, bind, Except.bind, hrequire] at h
        cases h
      | ok =>
        dsimp only
        rw [requireDirectory_eq_ok_iff.mp hrequire]
        rfl

/-- The last attempt at a path makes the directory, or finds it made. -/
theorem made_of_attempt {answer : Except IoError Unit × FileSystem}
    (made : ∀ made, files.tryMakeDirectory path = .ok made → answer = (.ok (), made))
    (found : ∀ cause, files.tryMakeDirectory path = .error cause →
      answer = (if (files.findDirectory path).isOk then .ok () else .error cause, files))
    (h : answer = (.ok (), after)) :
    0 ∉ path ∧ after.isDirectory path = true := by
  cases htry : files.tryMakeDirectory path with
  | ok next =>
    cases (made next htry).symm.trans h
    exact ⟨not_mem_of_tryMakeDirectory htry, isDirectory_of_tryMakeDirectory htry⟩
  | error cause =>
    have hfound := (found cause htry).symm.trans h
    by_cases hdirectory : (files.findDirectory path).isOk = true
    · rw [if_pos hdirectory] at hfound
      cases hfound
      exact of_findDirectory hdirectory
    · rw [if_neg hdirectory] at hfound
      cases hfound

/-- A path that was made has no nul in it and leads to a directory. -/
theorem made_of_makeDirectories (nonempty : path ≠ [])
    (h : files.makeDirectories path = (.ok (), after)) :
    0 ∉ path ∧ after.isDirectory path = true := by
  obtain ⟨count, hcount⟩ : ∃ count, path.components.length = count + 1 :=
    Nat.exists_eq_succ_of_ne_zero fun hzero =>
      components_ne_nil nonempty (List.eq_nil_of_length_eq_zero hzero)
  have hwhole : path.upTo (count + 1) = path := by
    unfold Path.upTo
    simp only [hcount, Nat.le_refl, if_true]
  unfold makeDirectories at h
  rw [if_neg nonempty, hcount, makeUpTo] at h
  simp only [hwhole] at h
  split at h
  · split at h
    · cases h
    · exact made_of_attempt (fun _ htry => by rw [htry]) (fun _ htry => by rw [htry]) h
  · exact made_of_attempt (fun _ htry => by rw [htry]) (fun _ htry => by rw [htry]) h

theorem isDirectory_of_makeDirectories (nonempty : path ≠ [])
    (h : files.makeDirectories path = (.ok (), after)) : after.isDirectory path = true :=
  (made_of_makeDirectories nonempty h).2

/-- No path with a nul in it is made. -/
theorem not_mem_of_makeDirectories (h : files.makeDirectories path = (.ok (), after)) :
    0 ∉ path := by
  by_cases nonempty : path = []
  · rw [nonempty]
    exact List.not_mem_nil
  · exact (made_of_makeDirectories nonempty h).1

/-! ## What is put in a directory -/

theorem start_of_append {back : Path} {start : Location} (nonempty : front ≠ [])
    (h : files.start (front ++ back) = .ok start) : files.start front = .ok start := by
  have hhead : (front ++ back).isAbsolute = front.isAbsolute := by
    obtain ⟨b, rest, rfl⟩ := List.exists_cons_of_ne_nil nonempty
    rfl
  have hwhole : front ++ back ≠ [] := List.append_ne_nil_of_left_ne_nil nonempty back
  unfold FileSystem.start at h ⊢
  rw [if_neg hwhole, hhead] at h
  rw [if_neg nonempty]
  by_cases hlong : (front ++ back).length ≥ pathLimit
  · rw [if_pos hlong] at h
    cases h
  · have hshort : ¬ front.length ≥ pathLimit := by
      rw [List.length_append] at hlong
      omega
    rw [if_neg hlong] at h
    rw [if_neg hshort]
    exact h

/-- A file whose path is written behind that of a directory lies in the directory. -/
theorem resolve_of_slot? (entry : Path.IsEntry name) (nonempty : front ≠ [])
    (h : files.slot? (front ++ Path.separator :: name) = .ok (some location)) :
    ∃ directory, files.resolve front = .ok directory ∧ location = directory ++ [name] := by
  obtain ⟨directory, hlookup, -, hlocation⟩ := (slot?_eq_some_iff entry).mp h
  refine ⟨directory, ?_, hlocation⟩
  unfold lookupDirectory at hlookup
  rw [Path.names_append_entry front entry, List.dropLast_concat] at hlookup
  unfold resolve
  cases hstart : files.start (front ++ Path.separator :: name) with
  | error cause =>
    rw [hstart] at hlookup
    cases hlookup
  | ok start =>
    rw [hstart] at hlookup
    rw [start_of_append nonempty hstart]
    exact hlookup

end CrashDump.FileSystem
