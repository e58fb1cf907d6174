import CrashDump.Proofs.PathBuffer.MachineWords

/-!
# Composing the path of a dump

Composing appends four parts to a cleared buffer.  It succeeds just if all four and a terminator fit,
and otherwise leaves those in front of the first part that does not.  What the buffer held before
makes no difference, and the path tells the directory and the id.

* `LongestWithin`: the longest of several texts that fits.
* `BoundedList.run_appendParts`: appending any number of parts to a list.
* `dumpPath_injective`: what a path tells.
* `PathBuffer.alike_compose`: composing in a buffer is composing in a list, whatever the buffer held.
* `PathBuffer.compose_cases`: so the path is there, or the longest stage of it that fits.
* `PathBuffer.compose_exact`: all of it.
-/

namespace CrashDump

variable {U : Type} {capacity : Nat}

/-! ## Appending parts -/

/-- One of several texts that is no longer than a limit.  The others that are no longer are its
beginnings. -/
structure LongestWithin (limit : Nat) (texts : List (List U)) (text : List U) : Prop where
  mem : text ∈ texts
  short : text.length ≤ limit
  longest : ∀ other ∈ texts, other.length ≤ limit → other <+: text

theorem LongestWithin.unique {limit : Nat} {texts : List (List U)} {first second : List U}
    (one : LongestWithin limit texts first) (two : LongestWithin limit texts second) :
    first = second := by
  have hone := two.longest first one.mem one.short
  have htwo := one.longest second two.mem two.short
  exact hone.eq_of_length (Nat.le_antisymm hone.length_le htwo.length_le)

namespace BoundedList

/-- Adds one part after the other. -/
def appendParts (capacity : Nat) : List (List U) → Edit U Unit
  | [] => pure ()
  | part :: rest => do
    append capacity part
    appendParts capacity rest

/-- What was added each time before a part is. -/
def stages : List (List U) → List (List U)
  | [] => []
  | part :: rest => [] :: (stages rest).map (part ++ ·)

/-- Either everything fits, or the longest stage that does is left. -/
theorem run_appendParts {list : List U} (parts : List (List U))
    (inside : list.length ≤ capacity - 1) :
    ((list ++ parts.flatten).length ≤ capacity - 1 ∧
      (appendParts capacity parts).run list = .ok () (list ++ parts.flatten)) ∨
    (capacity < (list ++ parts.flatten).length + 1 ∧
      ∃ text, LongestWithin (capacity - 1) ((stages parts).map (list ++ ·)) text ∧
        (appendParts capacity parts).run list = .error (.capacity .exceeded) text) := by
  induction parts generalizing list with
  | nil =>
    left
    rw [List.flatten_nil, List.append_nil]
    exact ⟨inside, rfl⟩
  | cons part rest ih =>
    rw [appendParts, EStateM.run_bind, List.flatten_cons, ← List.append_assoc]
    rcases Nat.lt_or_ge capacity (list.length + part.length + 1) with hlt | hle
    · right
      rw [run_append_of_lt hlt]
      refine ⟨?_, list, ⟨?_, inside, ?_⟩, rfl⟩
      · simp only [List.length_append]
        omega
      · exact List.mem_map.mpr ⟨[], List.mem_cons_self, List.append_nil list⟩
      · intro other hother hshort
        obtain ⟨stage, hstage, rfl⟩ := List.mem_map.mp hother
        rcases List.mem_cons.mp hstage with rfl | hbehind
        · simp only [List.append_nil, List.prefix_rfl]
        · -- With the part in it, a text is too long, unless there is no cell and it is empty.
          obtain ⟨stage, -, rfl⟩ := List.mem_map.mp hbehind
          have hempty : (list ++ (part ++ stage)).length = 0 := by
            simp only [List.length_append] at hshort ⊢
            omega
          rw [List.length_eq_zero_iff.mp hempty]
          exact List.nil_prefix
    · rw [run_append_of_le hle]
      have hinside : (list ++ part).length ≤ capacity - 1 := by
        rw [List.length_append]
        omega
      rcases ih hinside with hall | ⟨hover, text, hlongest, hrun⟩
      · exact .inl hall
      · right
        have hstages : (stages (part :: rest)).map (list ++ ·) =
            list :: (stages rest).map (list ++ part ++ ·) := by
          simp only [stages, List.map_cons, List.append_nil, List.map_map, Function.comp_def,
            List.append_assoc]
        refine ⟨hover, text, ⟨?_, hlongest.short, ?_⟩, hrun⟩
        · rw [hstages]
          exact List.mem_cons_of_mem list hlongest.mem
        · rw [hstages]
          intro other hother hshort
          rcases List.mem_cons.mp hother with rfl | hother
          · obtain ⟨stage, -, rfl⟩ := List.mem_map.mp hlongest.mem
            rw [List.append_assoc]
            exact List.prefix_append other (part ++ stage)
          · exact hlongest.longest other hother hshort

end BoundedList

/-! ## The path of a dump -/

variable [CodeUnit U]

/-- The parts of the path of a dump. -/
def dumpPathParts (directory id : List U) : List (List U) :=
  [directory, [CodeUnit.ofByte Path.separator], id, extension.map CodeUnit.ofByte]

/-- The beginnings of it that end where a part begins. -/
def dumpPathStages (directory id : List U) : List (List U) :=
  [[], directory, directory ++ [CodeUnit.ofByte Path.separator],
    directory ++ CodeUnit.ofByte Path.separator :: id]

theorem flatten_dumpPathParts (directory id : List U) :
    (dumpPathParts directory id).flatten = dumpPath directory id := by
  simp [dumpPathParts, dumpPath]

/-- Among ids of one length, the path tells the directory and the id. -/
theorem dumpPath_injective {directory id otherDirectory otherId : List U}
    (lengths : id.length = otherId.length)
    (h : dumpPath directory id = dumpPath otherDirectory otherId) :
    directory = otherDirectory ∧ id = otherId := by
  obtain ⟨hdirectory, hname⟩ := List.append_inj' h (by simp [lengths])
  exact ⟨hdirectory, (List.append_inj (List.cons.inj hname).2 lengths).1⟩

namespace BoundedList

theorem compose_eq (directory id : List U) :
    compose capacity directory id =
      clear >>= fun _ => appendParts capacity (dumpPathParts directory id) := by
  simp only [compose, push, appendBytes, dumpPathParts, appendParts, bind_pure_unit]

/-- Either the whole path fits, or the longest stage of it that does is left. -/
theorem run_compose (directory id list : List U) :
    (directory.length + 1 + id.length + 4 + 1 ≤ capacity ∧
      (compose capacity directory id).run list = .ok () (dumpPath directory id)) ∨
    (capacity < directory.length + 1 + id.length + 4 + 1 ∧
      ∃ text, LongestWithin (capacity - 1) (dumpPathStages directory id) text ∧
        (compose capacity directory id).run list = .error (.capacity .exceeded) text) := by
  have hrun : (compose capacity directory id).run list =
      (appendParts capacity (dumpPathParts directory id)).run [] := by
    rw [compose_eq]
    rfl
  have hstages : (stages (dumpPathParts directory id)).map ([] ++ ·) =
      dumpPathStages directory id := by
    simp [dumpPathParts, dumpPathStages, stages]
  have houtcome := run_appendParts (dumpPathParts directory id)
    (show ([] : List U).length ≤ capacity - 1 from Nat.zero_le _)
  rw [hstages, flatten_dumpPathParts, List.nil_append, length_dumpPath, ← hrun] at houtcome
  rcases houtcome with ⟨hfits, hok⟩ | ⟨hover, hstopped⟩
  · exact .inl ⟨by omega, hok⟩
  · exact .inr ⟨by omega, hstopped⟩

end BoundedList

namespace PathBuffer

open Checked (Stop)

/-- Composing in a buffer is composing in a list, whatever either of them held. -/
theorem alike_compose (directory id list : List U) (buffer : PathBuffer U capacity) :
    Alike Shows (((compose directory id).adaptExcept Stop.capacity).run buffer)
      ((BoundedList.compose capacity directory id).run list) :=
  -- What composing does first is to clear the buffer.
  matches_compose directory id buffer.cleared [] (shows_nil rfl)

/-- The outcomes of composing in a buffer. -/
theorem compose_cases (directory id : List U) (buffer : PathBuffer U capacity) :
    (directory.length + 1 + id.length + 4 + 1 ≤ capacity ∧
      ∃ after, (compose directory id).run buffer = .ok () after ∧
        after.Shows (dumpPath directory id)) ∨
    (capacity < directory.length + 1 + id.length + 4 + 1 ∧
      ∃ after text, (compose directory id).run buffer = .error .exceeded after ∧
        after.Shows text ∧ LongestWithin (capacity - 1) (dumpPathStages directory id) text) := by
  have halike := alike_compose directory id [] buffer
  rcases BoundedList.run_compose directory id [] with
    ⟨hfits, hlisted⟩ | ⟨hover, text, hlongest, hlisted⟩
  · rw [hlisted] at halike
    exact .inl ⟨hfits, halike.exists_ok⟩
  · rw [hlisted] at halike
    obtain ⟨_, after, hrun, -, shows⟩ := halike.exists_error
    exact .inr ⟨hover, after, text, hrun, shows, hlongest⟩

/-- With room for it and its terminator the whole path is written. -/
theorem run_compose_of_le {directory id : List U} (buffer : PathBuffer U capacity)
    (h : directory.length + id.length + 6 ≤ capacity) :
    ∃ after, (compose directory id).run buffer = .ok () after ∧
      after.contents = dumpPath directory id := by
  rcases compose_cases directory id buffer with ⟨-, after, hok, shows⟩ | ⟨hover, -⟩
  · exact ⟨after, hok, shows.contents⟩
  · omega

/-- Without room for it composing fails. -/
theorem run_compose_of_lt {directory id : List U} (buffer : PathBuffer U capacity)
    (h : capacity < directory.length + id.length + 6) :
    ∃ after, (compose directory id).run buffer = .error .exceeded after := by
  rcases compose_cases directory id buffer with ⟨hfits, -⟩ | ⟨-, after, -, hstopped, -⟩
  · omega
  · exact ⟨after, hstopped⟩

section

variable {directory id : List U} {buffer other after : PathBuffer U capacity}

theorem composes_iff : (∃ after, (compose directory id).run buffer = .ok () after) ↔
    directory.length + 1 + id.length + 4 + 1 ≤ capacity := by
  rcases compose_cases directory id buffer with ⟨hfits, composed, hok, -⟩ | ⟨hover, _, _, hstopped, -⟩
  · exact iff_of_true ⟨composed, hok⟩ hfits
  · refine iff_of_false ?_ (Nat.not_le.mpr hover)
    rintro ⟨after, hok⟩
    rw [hstopped] at hok
    cases hok

theorem contents_of_composed (h : (compose directory id).run buffer = .ok () after) :
    after.contents = dumpPath directory id := by
  rcases compose_cases directory id buffer with ⟨-, composed, hok, shows⟩ | ⟨-, _, _, hstopped, -⟩
  · rw [hok] at h
    cases h
    exact shows.contents
  · rw [hstopped] at h
    cases h

theorem longest_of_stopped {cause : CapacityError}
    (h : (compose directory id).run buffer = .error cause after) :
    LongestWithin (capacity - 1) (dumpPathStages directory id) after.contents := by
  rcases compose_cases directory id buffer with
    ⟨-, _, hok, -⟩ | ⟨-, stopped, text, hstopped, shows, hlongest⟩
  · rw [hok] at h
    cases h
  · rw [hstopped] at h
    cases h
    exact shows.contents ▸ hlongest

/-- What the buffer held before shows nowhere. -/
theorem alike_composes (directory id : List U) (buffer other : PathBuffer U capacity) :
    Alike (fun one two => one.contents = two.contents) ((compose directory id).run buffer)
      ((compose directory id).run other) := by
  rcases compose_cases directory id buffer with
    ⟨hfits, after, hok, shows⟩ | ⟨hover, after, text, hstopped, shows, longest⟩
  · obtain ⟨otherAfter, hother⟩ := composes_iff.mpr hfits
    rw [hok, hother]
    exact .ok () (shows.contents.trans (contents_of_composed hother).symm)
  · cases hother : (compose directory id).run other with
    | ok _ otherAfter =>
      exact absurd (composes_iff.mp ⟨otherAfter, hother⟩) (Nat.not_le.mpr hover)
    | error cause otherAfter =>
      rw [hstopped]
      exact .error _ (shows.contents.trans (longest.unique (longest_of_stopped hother)))

/-- Nor does the width of words. -/
theorem run_compose_checked (addressable : capacity ≤ Word.maxLength)
    (shortDirectory : directory.length ≤ Word.maxLength) (shortId : id.length ≤ Word.maxLength)
    (buffer : PathBuffer U capacity) :
    (Checked.compose directory id).run buffer =
      ((compose directory id).adaptExcept Stop.capacity).run buffer :=
  -- What composing does first is to clear the buffer.
  (Checked.matches_compose addressable shortDirectory shortId buffer.cleared buffer.cleared
    (.intro (Nat.zero_le _))).eq Checked.Same.eq

end

/-- Composing succeeds just if the whole path and its terminator fit, and then the path is there.
Otherwise the longest of its stages is there that leaves a cell free.  What the buffer held before
shows nowhere, and taking sums in machine words changes nothing.  Paths with ids of one length are
the same only if the directories and the ids are. -/
theorem compose_exact (directory id : List U) :
    (∀ buffer : PathBuffer U capacity,
      ((∃ after, (compose directory id).run buffer = .ok () after) ↔
        directory.length + 1 + id.length + 4 + 1 ≤ capacity) ∧
      (∀ after, (compose directory id).run buffer = .ok () after →
        after.contents = directory ++ CodeUnit.ofByte Path.separator ::
          (id ++ extension.map CodeUnit.ofByte)) ∧
      (∀ cause after, (compose directory id).run buffer = .error cause after →
        LongestWithin (capacity - 1) (dumpPathStages directory id) after.contents) ∧
      (∀ other : PathBuffer U capacity, Alike (fun one two => one.contents = two.contents)
        ((compose directory id).run buffer) ((compose directory id).run other)) ∧
      (capacity ≤ Word.maxLength → directory.length ≤ Word.maxLength → id.length ≤ Word.maxLength →
        (Checked.compose directory id).run buffer =
          ((compose directory id).adaptExcept Stop.capacity).run buffer)) ∧
    ∀ (otherCapacity : Nat) (otherDirectory otherId : List U) (buffer after : PathBuffer U capacity)
      (other otherAfter : PathBuffer U otherCapacity),
      (compose directory id).run buffer = .ok () after →
      (compose otherDirectory otherId).run other = .ok () otherAfter →
      id.length = otherId.length → after.contents = otherAfter.contents →
      directory = otherDirectory ∧ id = otherId := by
  refine ⟨fun buffer => ⟨composes_iff, fun after h => contents_of_composed h,
    fun cause after h => longest_of_stopped h, alike_composes directory id buffer,
    fun addressable shortDirectory shortId =>
      run_compose_checked addressable shortDirectory shortId buffer⟩, ?_⟩
  intro otherCapacity otherDirectory otherId buffer after other otherAfter composed otherComposed
    lengths h
  rw [contents_of_composed composed, contents_of_composed otherComposed] at h
  exact dumpPath_injective lengths h

section

/-- Ten cells with `/d/ab.dmp`. -/
def composedTight : PathBuffer UInt8 10 where
  cells := [0x2F, 0x64, 0x2F, 0x61, 0x62, 0x2E, 0x64, 0x6D, 0x70, 0]
  length := 9
  cells_length := rfl

/-- Nine cells with `/d/ab`, where the extension did not fit. -/
def stoppedTight : PathBuffer UInt8 9 where
  cells := [0x2F, 0x64, 0x2F, 0x61, 0x62, 0, 0, 0, 0]
  length := 5
  cells_length := rfl

/-- Eleven cells that were in use before. -/
def worn : PathBuffer UInt8 11 where
  cells := List.replicate 11 7
  length := 3
  cells_length := rfl

/-- The same with `/d/ac.dmp`, which leaves two of the sevens. -/
def composedWorn : PathBuffer UInt8 11 where
  cells := [0x2F, 0x64, 0x2F, 0x61, 0x63, 0x2E, 0x64, 0x6D, 0x70, 7, 7]
  length := 9
  cells_length := rfl

/-- The path takes nine cells, and its terminator one. -/
theorem compose_tight :
    composedTight.contents = dumpPath [0x2F, 0x64] [0x61, 0x62] ∧
    LongestWithin 8 (dumpPathStages [0x2F, 0x64] [0x61, 0x62]) stoppedTight.contents ∧
    (Checked.compose [0x2F, 0x64] [0x61, 0x62]).run (new : PathBuffer UInt8 9) =
      .error (.capacity .exceeded) stoppedTight ∧
    composedTight.contents ≠ composedWorn.contents := by
  have hcomposed : (compose [0x2F, 0x64] [0x61, 0x62]).run (new : PathBuffer UInt8 10) =
      .ok () composedTight := rfl
  have hstopped : (compose [0x2F, 0x64] [0x61, 0x62]).run (new : PathBuffer UInt8 9) =
      .error .exceeded stoppedTight := rfl
  have hworn : (compose [0x2F, 0x64] [0x61, 0x63]).run worn = .ok () composedWorn := rfl
  obtain ⟨-, hcontents, -⟩ := (compose_exact [0x2F, 0x64] [0x61, 0x62]).1 (new : PathBuffer UInt8 10)
  obtain ⟨-, -, hlongest, -, hwords⟩ :=
    (compose_exact [0x2F, 0x64] [0x61, 0x62]).1 (new : PathBuffer UInt8 9)
  refine ⟨hcontents _ hcomposed, hlongest _ _ hstopped, ?_, fun h => ?_⟩
  · rw [hwords (by decide) (by decide) (by decide)]
    rfl
  · obtain ⟨-, hid⟩ := (compose_exact [0x2F, 0x64] [0x61, 0x62]).2 11 [0x2F, 0x64] [0x61, 0x63]
      new composedTight worn composedWorn hcomposed hworn rfl h
    exact absurd hid (by decide)

end

/-- With ids of different lengths the path does not tell where the directory ends. -/
example : dumpPath [0x61, 0x2F, 0x62] [0x63] = dumpPath (U := UInt8) [0x61] [0x62, 0x2F, 0x63] := by
  decide

end PathBuffer

end CrashDump
