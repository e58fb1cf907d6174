import CrashDump.Proofs.Application.Attach
import CrashDump.Proofs.Application.Live
import CrashDump.Proofs.Directories
import CrashDump.Proofs.ReportedPath
import CrashDump.Proofs.Text.RoundTrip

/-!
# Where dumps land

The dumps of a handler lie in the directory that was asked for when it was attached.  The empty path
is the exception: it is accepted, and the dumps go to the root.

* `Event.directory?`: the directory that an attach asks for.
* `liesIn_path_iff`: the path of a dump lies in the directory, unless that is the empty path.
* `resolve_of_opened`: so does the file.
* `isDirectory_after_attachTyped`: a typed attach makes the directory.
* `lands_afterRun_iff`: all of it for every fault of every run.
-/

namespace CrashDump

variable {p : Platform}

/-! ## One dump -/

/-- The path of a dump lies in its directory, unless that is the empty path. -/
theorem Attachment.liesIn_path_iff (attachment : Attachment p) :
    Path.LiesIn (p.codec.decode attachment.path) (p.codec.decode attachment.directory)
        attachment.id.fileName ↔
      p.codec.decode attachment.directory ≠ [] := by
  have hdecode : p.codec.decode attachment.path =
      p.codec.decode attachment.directory ++ Path.separator :: attachment.id.fileName :=
    decode_dumpPath p attachment.directory attachment.id
  rw [hdecode]
  exact Path.liesIn_append_entry_iff attachment.id.isEntry_fileName

theorem DumpFile.openFor_of_opened {path : List p.PathUnit} {crash : CrashContext}
    {outcome : DumpOutcome} {files : FileSystem} {location : Location}
    (h : .opened location ∈ (DumpFile.write p path crash outcome files).2.2) :
    ∃ after, openFor p path files = .ok (location, after) := by
  unfold DumpFile.write at h
  split at h
  · simp at h
  · rename_i place after hopen
    have hplace : location = place := by
      cases outcome <;> simpa using h
    exact ⟨after, hplace ▸ hopen⟩

/-- The file of a dump is put into the directory that its path names, unless the path is cut short at
a nul. -/
theorem Attachment.resolve_of_opened (attachment : Attachment p)
    (whole : ¬ DumpFile.CutsShort p attachment.directory)
    (nonempty : p.codec.decode attachment.directory ≠ []) {crash : CrashContext}
    {outcome : DumpOutcome} {files : FileSystem} {location : Location}
    (opened : .opened location ∈ (DumpFile.write p attachment.path crash outcome files).2.2) :
    ∃ place, files.resolve (p.codec.decode attachment.directory) = .ok place ∧
      location = place ++ [attachment.id.fileName] := by
  obtain ⟨after, hopen⟩ := DumpFile.openFor_of_opened opened
  exact FileSystem.resolve_of_slot? attachment.id.isEntry_fileName nonempty
    (attachment.slot?_of_openFor whole hopen)

namespace Application

variable {app : Application p} {roster : Roster p} {event : Event p} {attachment : Attachment p}

/-! ## What attaches ask for -/

/-- The directory that an attach asks for.  Wide units are read as in the paths of dumps. -/
def Event.directory? : Event p → Option Path
  | .attachRaw pointer length _ _ _ _ =>
    (readDirectory pointer length).toOption.map p.codec.decode
  | .attachOwned directory _ _ _ _ => some (p.codec.decode directory)
  | .attachTyped directory _ _ _ => some directory
  | _ => none

/-- The units that a handler keeps are those of the directory. -/
theorem decode_directory {directory : Path} {id : Uuid}
    (asked : event.directory? = some directory)
    (text : p = .windows → Text.Utf8.IsValid directory)
    (request : event.attachment? id = some attachment) :
    p.codec.decode attachment.directory = directory := by
  cases event with
  | attachRaw pointer length function userData options surroundings =>
    obtain ⟨units, hread, rfl⟩ := Option.map_eq_some_iff.mp request
    have hasked : (readDirectory pointer length).toOption.map p.codec.decode = some directory := asked
    rw [hread] at hasked
    exact Option.some.inj hasked
  | attachOwned units function userData options surroundings =>
    cases request
    exact Option.some.inj asked
  | attachTyped path choice tag surroundings =>
    cases request
    cases asked
    exact Platform.decode_encode text
  | _ => cases request

/-- A typed attach makes its directory. -/
theorem isDirectory_after_attachTyped (coherent : Coherent app roster) {directory : Path}
    {choice : HandlerChoice} {tag : UInt64} {surroundings : Surroundings} {handler : Address}
    (nonempty : directory ≠ [])
    (reply : app.replyTo (.attachTyped directory choice tag surroundings) = .attached handler) :
    (app.after (.attachTyped directory choice tag surroundings)).machine.files.isDirectory
      directory = true := by
  obtain ⟨attachment, files, machine, -, prepared, -, hooked, hafter⟩ :=
    attached_of_reply coherent reply
  have hfiles : machine.files = files := (Machine.frame_hook hooked).2
  have hmade : app.machine.files.makeDirectories directory = (.ok (), files) := prepared
  rw [hafter]
  show machine.files.isDirectory directory = true
  rw [hfiles]
  exact FileSystem.isDirectory_of_makeDirectories nonempty hmade

/-! ## Runs -/

/-- Who is told of a dump is told of one that was just written, or could not be. -/
theorem exists_write_of_notified (coherent : Coherent app roster) {handler : Address}
    {context : HandlerContext} {path : List p.PathUnit}
    (told : .notified handler context path ∈ app.seen event) :
    ∃ attachment crash outcome, roster.get? handler = some attachment ∧
      path = attachment.path ∧
      app.seen event =
        (DumpFile.write p attachment.path crash outcome app.machine.files).2.2 ++
          attachment.calls handler := by
  obtain ⟨attachment, live, reached, rfl⟩ := reached_of_notified coherent told
  obtain ⟨another, crash, outcome, target, abortSignal, live', -, -, -, hseen⟩ :=
    (transition coherent event).faulted_of_reached reached
  rw [live] at live'
  cases live'
  exact ⟨attachment, crash, outcome, live, rfl, hseen⟩

/-- The handler of an attach keeps the directory that was asked for until it is detached. -/
theorem exists_get?_afterRun {files : FileSystem} {ids : IdSource} {earlier later : List (Event p)}
    {attach : Event p} {handler : Address} {directory : Path}
    (asked : attach.directory? = some directory)
    (text : p = .windows → Text.Utf8.IsValid directory)
    (reply : (afterRun files ids earlier).replyTo attach = .attached handler)
    (stays : ((afterRun files ids earlier).after attach).Stays handler later) :
    ∃ attachment,
      (Roster.afterRun files ids (earlier ++ attach :: later)).get? handler = some attachment ∧
        p.codec.decode attachment.directory = directory := by
  have coherent : Coherent (afterRun files ids earlier) (.afterRun files ids earlier) :=
    coherent_afterRun files ids earlier
  obtain ⟨attachment, -, -, request, -⟩ := attached_of_reply coherent reply
  have live : ((Roster.afterRun files ids earlier).after (afterRun files ids earlier) attach).get?
      handler = some attachment := by
    rw [Roster.after_of_attached reply request, Table.get?_insert_self]
  obtain ⟨id, hid⟩ := exists_get?_afterAll (coherent_after coherent attach) live stays
  have hroster : Roster.afterRun files ids (earlier ++ attach :: later) =
      ((Roster.afterRun files ids earlier).after (afterRun files ids earlier) attach).afterAll
        ((afterRun files ids earlier).after attach) later :=
    roster_afterAll_append _ _ earlier (attach :: later)
  have hdirectory := decode_directory asked text request
  exact ⟨{ attachment with id }, by rw [hroster, hid], hdirectory⟩

/-- A handler is attached for a directory, and a fault is reported to it, at any time before it is
detached.  The reported path is that of an entry of the directory exactly if the directory is not the
empty path.  Unless it is, or the path is cut short at a nul, the file that was opened lies where the
directory is, and a typed attach has made the directory. -/
theorem lands_afterRun_iff (files : FileSystem) (ids : IdSource) (earlier later : List (Event p))
    (attach event : Event p) (handler : Address) (context : HandlerContext)
    (directory : Path) (path : List p.PathUnit)
    (asked : attach.directory? = some directory)
    (text : p = .windows → Text.Utf8.IsValid directory)
    (reply : (afterRun files ids earlier).replyTo attach = .attached handler)
    (stays : ((afterRun files ids earlier).after attach).Stays handler later)
    (told : .notified handler context path ∈
      (afterRun files ids (earlier ++ attach :: later)).seen event) :
    let app := afterRun files ids (earlier ++ attach :: later)
    ∃ attachment, (Roster.afterRun files ids (earlier ++ attach :: later)).get? handler =
        some attachment ∧
      (Path.LiesIn (p.codec.decode path) directory attachment.id.fileName ↔ directory ≠ []) ∧
      (directory ≠ [] → ¬ DumpFile.CutsShort p attachment.directory →
        ∀ location, .opened location ∈ app.seen event →
          ∃ place, app.machine.files.resolve directory = .ok place ∧
            location = place ++ [attachment.id.fileName]) ∧
      ∀ choice tag surroundings, attach = .attachTyped directory choice tag surroundings →
        directory ≠ [] →
          ((afterRun files ids earlier).after attach).machine.files.isDirectory directory =
            true := by
  intro app
  have coherent : Coherent app (.afterRun files ids (earlier ++ attach :: later)) :=
    coherent_afterRun files ids _
  obtain ⟨attachment, live, rfl⟩ := exists_get?_afterRun asked text reply stays
  obtain ⟨another, crash, outcome, hlive, rfl, hseen⟩ := exists_write_of_notified coherent told
  rw [live] at hlive
  cases hlive
  refine ⟨attachment, live, attachment.liesIn_path_iff, ?_, ?_⟩
  · intro nonempty whole location opened
    rw [hseen] at opened
    rcases List.mem_append.mp opened with hwritten | hcalled
    · exact attachment.resolve_of_opened whole nonempty hwritten
    · exact absurd hcalled (not_opened_calls attachment handler location)
  · rintro choice tag surroundings rfl nonempty
    exact isDirectory_after_attachTyped (coherent_afterRun files ids earlier) nonempty reply

section

/-- A typed attach with a directory. -/
def dumpingTo (directory : Path) : Event .mac :=
  .attachTyped directory .exceptionHandler 7 ⟨none, 0x10⟩

/-- The id of the first dump. -/
def firstId : Uuid := (IdSource.fromSeed 0).id 0

/-- The application after an attach, in the working directory `w`. -/
def afterAttach (directory : Path) : Application .mac :=
  afterRun (.ofWorkingDirectory [[0x77]]) (.fromSeed 0) ([] ++ [dumpingTo directory])

/-- A crash after an attach with the directory `d` is dumped to `w/d`. -/
theorem lands_named :
    Path.LiesIn (dumpPath [0x64] firstId.units) [0x64] firstId.fileName ∧
      ∃ place, (afterAttach [0x64]).machine.files.resolve [0x64] = .ok place ∧
        [[0x77], [0x64], firstId.fileName] = place ++ [firstId.fileName] := by
  have hseen : (afterAttach [0x64]).seen crashing =
      [.opened [[0x77], [0x64], firstId.fileName], .asked (.signal .segv),
        .notified 0x10 (.crashEvent 0x10) (dumpPath [0x64] firstId.units),
        .invoked 7 (dumpPath [0x64] firstId.units)] := rfl
  obtain ⟨attachment, live, hlies, hopened, -⟩ := lands_afterRun_iff (.ofWorkingDirectory [[0x77]])
    (.fromSeed 0) [] [] (dumpingTo [0x64]) crashing 0x10 (.crashEvent 0x10) [0x64]
    (dumpPath [0x64] firstId.units) rfl (fun h => nomatch h) rfl trivial
    (show _ ∈ (afterAttach [0x64]).seen crashing by rw [hseen]; simp)
  have hattachment : attachment = ⟨[0x64], .crashEvent 7, ⟨true, false⟩, firstId⟩ := by
    cases live
    rfl
  subst hattachment
  have hnonempty : ([0x64] : Path) ≠ [] := List.cons_ne_nil _ _
  refine ⟨hlies.mpr hnonempty, hopened hnonempty (by simp [DumpFile.CutsShort]) _ ?_⟩
  show _ ∈ (afterAttach [0x64]).seen crashing
  rw [hseen]
  exact List.mem_cons_self

/-- After an attach with the empty path it is dumped to the root, which is not `w`. -/
theorem not_lands_empty :
    (afterRun (.ofWorkingDirectory [[0x77]]) (.fromSeed 0) []).replyTo (dumpingTo []) =
        .attached 0x10 ∧
      (afterAttach []).seen crashing =
        [.opened [firstId.fileName], .asked (.signal .segv),
          .notified 0x10 (.crashEvent 0x10) (dumpPath [] firstId.units),
          .invoked 7 (dumpPath [] firstId.units)] ∧
      ¬ Path.LiesIn (dumpPath [] firstId.units) [] firstId.fileName := by
  refine ⟨rfl, rfl, ?_⟩
  rw [dumpPath_bytes, Path.liesIn_append_entry_iff firstId.isEntry_fileName]
  exact not_not_intro rfl

end

end Application

end CrashDump
