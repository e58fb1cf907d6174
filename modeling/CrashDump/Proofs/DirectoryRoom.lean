import CrashDump.Proofs.Application.Targets
import CrashDump.Proofs.Delivery
import CrashDump.Proofs.PathBuffer.Composition

/-!
# Room for dumps is checked once

An attach compares one number with the capacity of a path buffer.  A crash appends four times to
such a buffer, each time with a cell to spare, and terminates the path in place.  The comparison is
exact: it passes just if the appends succeed, whatever the id of the dump and whatever the buffer
held before.  So nothing that a crash does with the path of a dump can run out of room.

* `PathBuffer.Terminates`: the cell behind a path is there, for its terminator.
* `exists_run_compose_iff`: what composing the path of a dump needs.
* `Application.Accepts` and `accepts_iff`: which directories an attach does not refuse as too long.
* `Target.HasRoom`: what a target can rely on in a crash.
* `Application.room_afterRun`: the check is exact, and the targets of all runs have room.
-/

namespace CrashDump

/-! ## Path buffers -/

namespace PathBuffer

variable {U : Type} {capacity : Nat} [CodeUnit U]

/-- The path can be terminated in place: the cell behind it is one of the buffer's. -/
structure Terminates (buffer : PathBuffer U capacity) : Prop where
  inside : buffer.length < capacity
  text : buffer.terminated.1 = buffer.contents ++ [CodeUnit.zero]

theorem Terminates.of_contents {buffer : PathBuffer U capacity}
    (short : buffer.contents.length < capacity) : buffer.Terminates := by
  have hcells := buffer.cells_length
  have hinside : buffer.length < capacity := by
    rw [contents, List.length_take, hcells] at short
    omega
  exact ⟨hinside, (terminated_of_lt hinside).1⟩

/-- Composing succeeds just if there is room for the whole path and its terminator. -/
theorem exists_run_compose_iff {directory id : List U} (hid : id.length = idLength)
    (buffer : PathBuffer U capacity) :
    (∃ after, (compose directory id).run buffer = .ok () after) ↔
      requiredUnits directory.length ≤ capacity := by
  have hid : id.length = 36 := hid
  rw [composes_iff, requiredUnits_eq]
  omega

end PathBuffer

variable {p : Platform}

/-! ## The check -/

theorem requiredUnits_le_iff (p : Platform) (length : Nat) :
    requiredUnits length ≤ p.maxPathUnits ↔ length ≤ Host.maxDirectory p := by
  have hroom : requiredUnits 0 ≤ p.maxPathUnits := by cases p <;> decide
  unfold Host.maxDirectory
  rw [requiredUnits_eq] at hroom ⊢
  rw [requiredUnits_eq]
  omega

/-- Hooking does not fail for want of room. -/
theorem Machine.hook_ne_pathTooLong (machine : Machine p) (refusal : Option Refusal)
    (target : Address) (source : Option FaultSource) (length maximum : Nat) :
    (machine.hook refusal target source).1 ≠ .error (.pathTooLong length maximum) := by
  intro h
  rcases source with _ | _ | _
  · cases h
  · simp only [hook] at h
    split at h <;> cases h
  · simp only [hook] at h
    cases hset : (machine.abortSignal.hook (refusal.bind Refusal.abortAction?) target).1 <;>
      rw [hset] at h <;> cases h

namespace Application

/-- An attach does not refuse the directory as too long. -/
def Accepts (app : Application p) (address : Address) (directory : List p.PathUnit)
    (context : HandlerContext) (options : InstallOptions) (refusal : Option Refusal) : Prop :=
  ∀ length maximum,
    (app.attach address directory context options refusal).1 ≠ .error (.pathTooLong length maximum)

section

variable {app : Application p} {address : Address} {directory : List p.PathUnit}
  {context : HandlerContext} {options : InstallOptions} {refusal : Option Refusal}

theorem attach_of_too_long (long : p.maxPathUnits < requiredUnits directory.length) :
    app.attach address directory context options refusal =
      (.error (.pathTooLong directory.length (Host.maxDirectory p)), app, []) := by
  simp only [attach, Host.attach, gt_iff_lt, long, if_true]

/-- It is the length of the directory alone that counts. -/
theorem accepts_iff :
    app.Accepts address directory context options refusal ↔
      requiredUnits directory.length ≤ p.maxPathUnits := by
  constructor
  · intro accepts
    by_contra hlong
    rw [Nat.not_le] at hlong
    exact accepts _ _ (congrArg (·.1) (attach_of_too_long hlong))
  · intro fits length maximum h
    have hnot : ¬ requiredUnits directory.length > p.maxPathUnits := Nat.not_lt.mpr fits
    simp only [attach, Host.attach, hnot, if_false, Machine.installer, Machine.install] at h
    rcases hhook : Machine.hook { app.host.world with ids := app.host.world.ids.advance } refusal
      address (FaultSource.ofOptions? p options) with ⟨cause | ⟨⟩, machine⟩
    · rw [hhook] at h
      cases h
      exact Machine.hook_ne_pathTooLong _ _ _ _ _ _ (congrArg Prod.fst hhook)
    · rw [hhook] at h
      cases h

end

end Application

/-! ## Targets -/

/-- The target keeps the whole path of its next dump, on a platform where that is done. -/
def Target.ComposedAhead (target : Target p) : Prop :=
  p = .linux → ∃ path, target.next = .composed path

theorem Target.lasting_composedAhead : Target.Lasting (Target.ComposedAhead (p := p)) where
  new directory context id := by
    rintro rfl
    exact ⟨_, rfl⟩
  rename target id h := by
    intro hlinux
    obtain ⟨path, hpath⟩ := h hlinux
    exact ⟨NextDump.recompose path target.directory id, by
      simp only [rename, hpath, NextDump.rename]⟩

/-- Whatever a crash does with the path of a dump, there is room for it. -/
structure Target.HasRoom (target : Target p) : Prop where
  /-- The path of every dump can be composed, in every buffer, and terminated there. -/
  composes : ∀ (id : List p.PathUnit) (buffer : PathBuffer p.PathUnit p.maxPathUnits),
    id.length = idLength →
    ∃ after, (PathBuffer.compose target.directory id).run buffer = .ok () after ∧
      after.contents = dumpPath target.directory id ∧ after.Terminates
  /-- Every dump is reported. -/
  delivers : ∀ (context : Address) (id : List p.PathUnit) (succeeded : Bool),
    id.length = idLength →
    Bridge.deliverJoined (p := p) context target.directory id succeeded =
      ⟨succeeded, some ⟨context, dumpPath target.directory id⟩, none⟩
  /-- On Linux the path is there before the crash. -/
  composedAhead : target.ComposedAhead
  /-- A path that is there before the crash is not empty, and can be terminated. -/
  composed : ∀ path, target.next = .composed path →
    path.isEmpty = false ∧ path.Terminates

theorem Target.Serves.hasRoom {target : Target p} {address : Address} {attachment : Attachment p}
    (serves : target.Serves address attachment)
    (fits : requiredUnits attachment.directory.length ≤ p.maxPathUnits)
    (composedAhead : target.ComposedAhead) : target.HasRoom := by
  obtain ⟨hdirectory, -, hnames⟩ := serves
  rw [← hdirectory] at fits hnames
  have hroom (id : List p.PathUnit) (hid : id.length = idLength) :
      target.directory.length + id.length + 6 ≤ p.maxPathUnits := by
    rw [requiredUnits_eq] at fits
    have hid : id.length = 36 := hid
    omega
  have hshort (id : List p.PathUnit) (hid : id.length = idLength) :
      (dumpPath target.directory id).length < p.maxPathUnits := by
    have := hroom id hid
    rw [length_dumpPath]
    omega
  refine ⟨fun id buffer hid => ?_, fun context id succeeded hid => ?_, composedAhead,
    fun path hpath => ?_⟩
  · obtain ⟨after, hrun, hcontents⟩ := PathBuffer.run_compose_of_le buffer (hroom id hid)
    exact ⟨after, hrun, hcontents, .of_contents (hcontents ▸ hshort id hid)⟩
  · exact Bridge.deliverJoined_of_le (hroom id hid)
  · rw [hpath] at hnames
    have hcontents : path.contents = dumpPath target.directory attachment.id.units := hnames
    refine ⟨?_, .of_contents (hcontents ▸ hshort _ (Uuid.length_units attachment.id))⟩
    have hne : path.length ≠ 0 := by
      intro hzero
      have hlength := congrArg List.length hcontents
      rw [PathBuffer.contents, hzero, length_dumpPath] at hlength
      simp at hlength
    simpa only [PathBuffer.isEmpty, decide_eq_false_iff_not] using hne

namespace Application

variable {app : Application p} {roster : Roster p}

/-- Nothing that is seen of writing a dump is a skipped report. -/
theorem not_skipped_write (path : List p.PathUnit) (crash : CrashContext) (outcome : DumpOutcome)
    (files : FileSystem) :
    .printed .deliverySkipped ∉ (DumpFile.write p path crash outcome files).2.2 := by
  unfold DumpFile.write
  split
  · cases p <;> simp [DumpFile.openNotice]
  · cases outcome <;> simp

/-- In no step is a report skipped. -/
theorem not_skipped_seen (coherent : Coherent app roster) (event : Event p) :
    .printed .deliverySkipped ∉ app.seen event := by
  intro h
  cases transition coherent event with
  | attached _ _ _ _ _ _ _ _ seen => simp [seen] at h
  | refused _ _ _ memory_eq _ _ seen =>
    rcases memory_eq with rfl | ⟨_, -, rfl⟩ <;> simp [seen] at h
  | detached _ _ _ _ _ _ seen => simp [seen] at h
  | faulted _ _ _ _ _ _ seen =>
    rw [seen, List.mem_append] at h
    rcases h with h | h
    · exact not_skipped_write _ _ _ _ h
    · simp [Attachment.calls] at h
  | abandoned _ _ _ _ _ seen => simp [seen] at h
  | quiet _ _ _ _ _ _ _ seen => simp [seen] at h

/-- An attach accepts a directory just if composing the path of a dump in it succeeds, whatever the
dump's id and the buffer.  When it refuses one, it names its length and the greatest length that it
accepts, and leaves the application as it is.  In every run, each attached handler has a target
with room for its dumps, and is told of those that faults have it write.  No report is skipped. -/
theorem room_afterRun (p : Platform) :
    (∀ (app : Application p) (address : Address) (directory : List p.PathUnit)
        (context : HandlerContext) (options : InstallOptions) (refusal : Option Refusal),
      (∀ (id : List p.PathUnit) (buffer : PathBuffer p.PathUnit p.maxPathUnits),
        id.length = idLength →
        (app.Accepts address directory context options refusal ↔
          ∃ after, (PathBuffer.compose directory id).run buffer = .ok () after)) ∧
      (∀ length maximum,
        (app.attach address directory context options refusal).1 =
          .error (.pathTooLong length maximum) →
        length = directory.length ∧
        (∀ other, app.Accepts address other context options refusal ↔ other.length ≤ maximum) ∧
        app.attach address directory context options refusal =
          (.error (.pathTooLong length maximum), app, []))) ∧
    (∀ (files : FileSystem) (ids : IdSource) (events : List (Event p)),
      (∀ handler attachment,
        Table.get? (Roster.afterRun files ids events) handler = some attachment →
        ∃ target, (afterRun files ids events).machine.targets.get? handler = some target ∧
          target.directory = attachment.directory ∧ target.HasRoom ∧
          ∀ event, (afterRun files ids events).reached? event = some handler →
            .notified handler (attachment.context handler) attachment.path ∈
              (afterRun files ids events).seen event) ∧
      ∀ event, .printed .deliverySkipped ∉ (afterRun files ids events).seen event) := by
  refine ⟨fun app address directory context options refusal =>
    ⟨fun id buffer hid => ?_, fun length maximum h => ?_⟩, fun files ids events => ?_⟩
  · rw [accepts_iff, PathBuffer.exists_run_compose_iff hid]
  · have hlong : p.maxPathUnits < requiredUnits directory.length := by
      rw [← Nat.not_le, ← accepts_iff]
      exact fun accepts => accepts length maximum h
    have hattach : app.attach address directory context options refusal =
        (.error (.pathTooLong directory.length (Host.maxDirectory p)), app, []) :=
      attach_of_too_long hlong
    rw [hattach] at h
    cases h
    refine ⟨rfl, fun other => ?_, hattach⟩
    rw [accepts_iff, requiredUnits_le_iff]
  · have coherent := coherent_afterRun files ids events
    refine ⟨fun handler attachment live => ?_, not_skipped_seen coherent⟩
    obtain ⟨target, htarget, serves⟩ := coherent.serves live
    have composedAhead :=
      targets_afterRun Target.lasting_composedAhead files ids events handler target htarget
    refine ⟨target, htarget, serves.directory, serves.hasRoom (coherent.fits live) composedAhead,
      fun event reached => ?_⟩
    obtain ⟨other, _, _, _, _, hlive, -, -, -, hseen⟩ :=
      (transition coherent event).faulted_of_reached reached
    rw [live] at hlive
    cases hlive
    rw [hseen]
    exact List.mem_append_right _ List.mem_cons_self

section

/-- An application without handlers. -/
def unattached : Application .windows :=
  initial .windows (.ofWorkingDirectory []) (.fromSeed 0)

/-- The shortest directory that is refused, and the longest that is not. -/
theorem room_boundary :
    unattached.Accepts 0x10 (List.replicate 982 0x2F) (.client 1 0) ⟨true, true⟩ none ∧
    ¬ unattached.Accepts 0x10 (List.replicate 983 0x2F) (.client 1 0) ⟨true, true⟩ none := by
  have hrefused : (unattached.attach 0x10 (List.replicate 983 0x2F) (.client 1 0) ⟨true, true⟩
      none).1 = .error (.pathTooLong 983 982) := by
    rw [attach_of_too_long (by rw [List.length_replicate]; decide), List.length_replicate]
    rfl
  obtain ⟨-, hgreatest, -⟩ := ((room_afterRun .windows).1 unattached 0x10 (List.replicate 983 0x2F)
    (.client 1 0) ⟨true, true⟩ none).2 983 982 hrefused
  rw [hgreatest, hgreatest, List.length_replicate, List.length_replicate]
  decide

end

end Application

end CrashDump
