import CrashDump.Proofs.Delivery
import CrashDump.Proofs.DumpName
import CrashDump.Proofs.FileSystem

/-!
# Whether a reported path is that of the dump

A client that is told of a dump takes the path for that of the dump, and the system takes the
answer for whether the dump was written.  Both hold unless the directory has a nul in it and the
file is opened with the system call: that reads the path up to the nul, and so writes the dump to
another file if it can.

* `Truthful` says that a fault touched the file at the reported path only, and counted as handled
  exactly if a dump is there.
* `openFor_cases`: opening is refused for a nul, or opens the file at the reported path.
* `reached_of_notified`: who is told of a dump is the handler that a fault reaches.
* `truthful_write` and `not_truthful_write` are for one dump, `truthful_afterRun_iff` for every
  fault of every run.
-/

namespace CrashDump

variable {p : Platform}

/-- The path, without a nul in it, leads to a place where there is something. -/
def FileSystem.Finds (files : FileSystem) (path : Path) (location : Location) : Prop :=
  FileSystem.refuseNul path = .ok () ∧ files.resolve path = .ok location

/-- What is reported of a fault is true: the path that of the only file which was touched, and the
answer whether there is a dump in it. -/
structure Truthful (before after : FileSystem) (path : Path) (handled : Bool) (trace : Trace p) :
    Prop where
  handled_iff : handled = true ↔ ∃ contents, after.file? path = some contents ∧ contents ≠ []
  opened : ∀ location, .opened location ∈ trace → after.Finds path location
  changed : ∀ location, after.node? location ≠ before.node? location → after.Finds path location

/-! ## Opening -/

namespace DumpFile

theorem upToNul_of_not_mem {bytes : List UInt8} (h : 0 ∉ bytes) : upToNul bytes = bytes := by
  induction bytes with
  | nil => rfl
  | cons b rest ih =>
    rw [List.mem_cons, not_or] at h
    have hb : decide (b ≠ 0) = true := decide_eq_true (Ne.symm h.1)
    have hrest : rest.takeWhile (· ≠ 0) = rest := ih h.2
    show (b :: rest).takeWhile (· ≠ 0) = b :: rest
    rw [List.takeWhile_cons, hb, if_pos rfl, hrest]

/-- The directory has a nul in it that the system call is not told of. -/
def CutsShort : (p : Platform) → List p.PathUnit → Prop
  | .linux, directory => 0 ∈ directory
  | .mac, directory => 0 ∈ directory
  | .windows, _ => False

/-- Unless the path is cut short, opening a dump's file is refused for a nul, or opens the file at
the decoded path. -/
theorem openFor_cases {directory : List p.PathUnit} (whole : ¬ CutsShort p directory) (id : Uuid)
    (files : FileSystem) :
    (0 ∈ p.codec.decode (dumpPath directory id.units) ∧
      ∃ cause, openFor p (dumpPath directory id.units) files = .error cause) ∨
    (0 ∉ p.codec.decode (dumpPath directory id.units) ∧
      ∃ mode, openFor p (dumpPath directory id.units) files =
        files.openFile (p.codec.decode (dumpPath directory id.units)) mode) := by
  have bytes (directory : Path) (whole : 0 ∉ directory) :
      0 ∉ dumpPath directory id.units ∧
        files.openFile (upToNul (dumpPath directory id.units)) mode =
          files.openFile (dumpPath directory id.units) mode := by
    have hnul : 0 ∉ dumpPath directory id.units := by
      rw [dumpPath_bytes, nul_mem_dumpPath_iff]
      exact whole
    exact ⟨hnul, by rw [upToNul_of_not_mem hnul]⟩
  cases p with
  | linux => exact .inr ⟨(bytes directory whole).1, mode, (bytes directory whole).2⟩
  | mac => exact .inr ⟨(bytes directory whole).1, mode, (bytes directory whole).2⟩
  | windows =>
    by_cases hnul : 0 ∈ Platform.windows.codec.decode (dumpPath directory id.units)
    · left
      refine ⟨hnul, .explained .invalidInput "file name contained an unexpected NUL byte", ?_⟩
      show FileSystem.createFile files _ = _
      unfold FileSystem.createFile FileSystem.refuseNul
      rw [if_pos hnul]
      rfl
    · right
      refine ⟨hnul, FileSystem.defaultMode, ?_⟩
      show FileSystem.createFile files _ = _
      unfold FileSystem.createFile FileSystem.refuseNul
      rw [if_neg hnul]
      rfl

end DumpFile

/-- The file that is opened for a dump is where the decoded path leads, unless the path is cut
short. -/
theorem Attachment.slot?_of_openFor (attachment : Attachment p)
    (whole : ¬ DumpFile.CutsShort p attachment.directory) {files after : FileSystem}
    {location : Location}
    (hopen : DumpFile.openFor p attachment.path files = .ok (location, after)) :
    files.slot? (p.codec.decode attachment.directory ++
      Path.separator :: attachment.id.fileName) = .ok (some location) := by
  rcases DumpFile.openFor_cases whole attachment.id files with
    ⟨-, cause, hfailed⟩ | ⟨-, mode, hfile⟩
  · have hfailed : DumpFile.openFor p attachment.path files = .error cause := hfailed
    rw [hopen] at hfailed
    cases hfailed
  · have hfile : DumpFile.openFor p attachment.path files =
        files.openFile (p.codec.decode attachment.path) mode := hfile
    rw [show p.codec.decode attachment.path = _ from
      decode_dumpPath p attachment.directory attachment.id, hopen] at hfile
    exact (FileSystem.puts_of_openFile attachment.id.isEntry_fileName hfile.symm).1

/-! ## One dump -/

theorem truthful_of_puts {files after : FileSystem} {front : Path} {name : List UInt8}
    {location : Location} {contents : List UInt8} {handled : Bool} {trace : Trace p}
    (entry : Path.IsEntry name) (hnul : 0 ∉ front ++ Path.separator :: name)
    (slot : files.slot? (front ++ Path.separator :: name) = .ok (some location))
    (puts : FileSystem.Puts files after location contents)
    (hhandled : handled = true ↔ contents ≠ [])
    (opened : ∀ other, .opened other ∈ trace → other = location) :
    Truthful files after (front ++ Path.separator :: name) handled trace := by
  obtain ⟨hresolve, hfile⟩ := puts.file?_eq entry hnul slot
  have hfinds : after.Finds (front ++ Path.separator :: name) location := ⟨if_neg hnul, hresolve⟩
  constructor
  · rw [hhandled, hfile]
    simp
  · intro other h
    rw [opened other h]
    exact hfinds
  · intro other h
    by_cases hother : other = location
    · rw [hother]
      exact hfinds
    · exact absurd (puts.others other hother) h

theorem not_opened_calls (attachment : Attachment p) (handler : Address) (location : Location) :
    .opened location ∉ attachment.calls handler := by
  intro h
  unfold Attachment.calls at h
  cases hevent : attachment.event? <;> simp [hevent] at h

/-- A dump that fails to be opened, at a path that leads to no file, is reported truthfully. -/
theorem truthful_of_missing (attachment : Attachment p) (crash : CrashContext)
    (outcome : DumpOutcome) {files : FileSystem} {cause : IoError}
    (hopen : DumpFile.openFor p attachment.path files = .error cause)
    (missing : files.file? (p.codec.decode attachment.path) = none) (handler : Address) :
    Truthful files (DumpFile.write p attachment.path crash outcome files).2.1
      (p.codec.decode attachment.path)
      (DumpFile.write p attachment.path crash outcome files).1
      ((DumpFile.write p attachment.path crash outcome files).2.2 ++ attachment.calls handler) := by
  unfold DumpFile.write
  rw [hopen]
  constructor
  · rw [missing]
    simp
  · intro location h
    simp [not_opened_calls attachment handler location] at h
  · intro location h
    exact absurd rfl h

theorem file?_of_nul (files : FileSystem) {path : Path} (h : 0 ∈ path) :
    files.file? path = none := by
  unfold FileSystem.file? FileSystem.refuseNul
  rw [if_pos h]

/-- A fault that does not cut the path short is reported truthfully. -/
theorem truthful_write (attachment : Attachment p)
    (whole : ¬ DumpFile.CutsShort p attachment.directory) (crash : CrashContext)
    (outcome : DumpOutcome) (files : FileSystem) (handler : Address) :
    Truthful files (DumpFile.write p attachment.path crash outcome files).2.1
      (p.codec.decode attachment.path)
      (DumpFile.write p attachment.path crash outcome files).1
      ((DumpFile.write p attachment.path crash outcome files).2.2 ++ attachment.calls handler) := by
  have entry := attachment.id.isEntry_fileName
  have hdecode : p.codec.decode attachment.path =
      p.codec.decode attachment.directory ++ Path.separator :: attachment.id.fileName :=
    decode_dumpPath p attachment.directory attachment.id
  have hcases := DumpFile.openFor_cases whole attachment.id files
  rcases hcases with ⟨hnul, cause, hopen⟩ | ⟨hnul, mode, hopen⟩
  · exact truthful_of_missing attachment crash outcome hopen (file?_of_nul files hnul) handler
  · have hopen : DumpFile.openFor p attachment.path files =
        files.openFile (p.codec.decode attachment.path) mode := hopen
    have hnul : 0 ∉ p.codec.decode attachment.path := hnul
    cases hfile : files.openFile (p.codec.decode attachment.path) mode with
    | error cause =>
      rw [hfile] at hopen
      rw [hdecode] at hfile
      have missing := FileSystem.file?_of_openFile_error entry hfile
      rw [← hdecode] at missing
      exact truthful_of_missing attachment crash outcome hopen missing handler
    | ok opened =>
      obtain ⟨location, after⟩ := opened
      rw [hfile] at hopen
      unfold DumpFile.write
      rw [hopen]
      rw [hdecode] at hfile hnul ⊢
      obtain ⟨hslot, hputs⟩ := FileSystem.puts_of_openFile entry hfile
      have hroot := FileSystem.ne_nil_of_slot? entry hslot
      have hopened : ∀ other, .opened other ∈ [.opened location, .asked crash] ++
          attachment.calls handler → other = location := by
        intro other h
        simpa [not_opened_calls attachment handler other] using h
      cases outcome with
      | written =>
        exact truthful_of_puts entry hnul hslot (hputs.setContents hroot DumpFile.minidump)
          (iff_of_true rfl (List.cons_ne_nil _ _)) hopened
      | failed =>
        exact truthful_of_puts entry hnul hslot hputs
          (iff_of_false Bool.false_ne_true (not_not_intro rfl)) hopened

/-- The decoded path keeps the nul at which it is cut short. -/
theorem nul_mem_decode (attachment : Attachment p)
    (short : DumpFile.CutsShort p attachment.directory) :
    0 ∈ p.codec.decode attachment.path := by
  rw [show p.codec.decode attachment.path = _ from
    decode_dumpPath p attachment.directory attachment.id, List.mem_append]
  left
  cases p with
  | linux => exact short
  | mac => exact short
  | windows => exact short.elim

/-- If nothing can be opened where the path is cut short, that is reported. -/
theorem truthful_write_of_short (attachment : Attachment p)
    (short : DumpFile.CutsShort p attachment.directory) {files : FileSystem}
    (closed : attachment.opens files ≠ true) (crash : CrashContext) (outcome : DumpOutcome)
    (handler : Address) :
    Truthful files (DumpFile.write p attachment.path crash outcome files).2.1
      (p.codec.decode attachment.path)
      (DumpFile.write p attachment.path crash outcome files).1
      ((DumpFile.write p attachment.path crash outcome files).2.2 ++ attachment.calls handler) := by
  unfold Attachment.opens at closed
  cases hopen : DumpFile.openFor p attachment.path files with
  | error cause =>
    have missing := file?_of_nul files (nul_mem_decode attachment short)
    exact truthful_of_missing attachment crash outcome hopen missing handler
  | ok opened =>
    rw [hopen] at closed
    exact absurd rfl closed

/-- A dump that is written elsewhere is not reported truthfully. -/
theorem not_truthful_write (attachment : Attachment p)
    (short : DumpFile.CutsShort p attachment.directory) (crash : CrashContext)
    (outcome : DumpOutcome) {files : FileSystem} (opens : attachment.opens files = true)
    (after : FileSystem) (handled : Bool) (handler : Address) :
    ¬ Truthful files after (p.codec.decode attachment.path) handled
      ((DumpFile.write p attachment.path crash outcome files).2.2 ++
        attachment.calls handler) := by
  intro truthful
  have hnul := nul_mem_decode attachment short
  unfold Attachment.opens at opens
  cases hopen : DumpFile.openFor p attachment.path files with
  | error cause =>
    rw [hopen] at opens
    cases opens
  | ok opened =>
    have hmem : .opened opened.1 ∈ (DumpFile.write p attachment.path crash outcome files).2.2 ++
        attachment.calls handler := by
      unfold DumpFile.write
      rw [hopen]
      cases outcome <;> exact List.mem_cons_self
    have hrefuse := (truthful.opened _ hmem).1
    unfold FileSystem.refuseNul at hrefuse
    rw [if_pos hnul] at hrefuse
    cases hrefuse

/-! ## Runs -/

namespace Application

theorem path_of_notified {attachment : Attachment p} {handler other : Address}
    {context : HandlerContext} {path : List p.PathUnit}
    (h : .notified handler context path ∈ attachment.calls other) :
    handler = other ∧ path = attachment.path := by
  unfold Attachment.calls at h
  rcases List.mem_cons.mp h with h | h
  · exact ⟨(Observation.notified.inj h).1, (Observation.notified.inj h).2.2⟩
  · cases hevent : attachment.event? <;> simp [hevent] at h

/-- Who is told of a dump is the handler that a fault reaches, and the path is its own. -/
theorem reached_of_notified {app : Application p} {roster : Roster p} {event : Event p}
    (coherent : Coherent app roster) {handler : Address} {context : HandlerContext}
    {path : List p.PathUnit} (told : .notified handler context path ∈ app.seen event) :
    ∃ attachment, roster.get? handler = some attachment ∧ app.reached? event = some handler ∧
      path = attachment.path := by
  have htransition := transition coherent event
  cases hreached : app.reached? event with
  | none => exact absurd told (Trace.not_notified_of_calls (htransition.silent hreached).1)
  | some other =>
    obtain ⟨attachment, crash, outcome, live, -, delivers⟩ := htransition.delivers coherent hreached
    have hcalled : .notified handler context path ∈ (app.seen event).calls :=
      List.mem_filter.mpr ⟨told, rfl⟩
    rw [delivers.calls] at hcalled
    obtain ⟨rfl, rfl⟩ := path_of_notified hcalled
    exact ⟨attachment, live, rfl, rfl⟩

/-- Whatever fault it is that a client is told of, what is reported is true, unless the directory is
cut short at a nul and a file is there to be opened instead. -/
theorem truthful_afterRun_iff (files : FileSystem) (ids : IdSource) (earlier : List (Event p))
    (event : Event p) (handler : Address) (context : HandlerContext) (path : List p.PathUnit)
    (handled : Bool)
    (told : .notified handler context path ∈ (afterRun files ids earlier).seen event)
    (answers : event.Answers handled ((afterRun files ids earlier).replyTo event)
      (afterRun files ids earlier).machine.abortSignal
      ((afterRun files ids earlier).after event).machine.abortSignal) :
    ∃ attachment, (Roster.afterRun files ids earlier).get? handler = some attachment ∧
      (Truthful (afterRun files ids earlier).machine.files
          ((afterRun files ids earlier).after event).machine.files (p.codec.decode path) handled
          ((afterRun files ids earlier).seen event) ↔
        ¬ (DumpFile.CutsShort p attachment.directory ∧
          attachment.opens (afterRun files ids earlier).machine.files = true)) := by
  have coherent := coherent_afterRun files ids earlier
  have htransition := transition coherent event
  generalize afterRun files ids earlier = app at *
  generalize Roster.afterRun files ids earlier = roster at *
  cases hreached : app.reached? event with
  | none => exact absurd told (Trace.not_notified_of_calls (htransition.silent hreached).1)
  | some other =>
    obtain ⟨attachment, crash, outcome, target, abortSignal, live, brings, hanswers, hafter, hseen⟩ :=
      htransition.faulted_of_reached hreached
    have hsignal : (app.after event).machine.abortSignal = abortSignal := by
      rw [hafter]
      rfl
    have hfiles : (app.after event).machine.files =
        (DumpFile.write p attachment.path crash outcome app.machine.files).2.1 := by
      rw [hafter]
      rfl
    rw [hsignal] at answers
    have hhandled := coherent.answers_inj hreached answers hanswers
    have hcalled : .notified handler context path ∈ attachment.calls other := by
      rw [hseen] at told
      rcases List.mem_append.mp told with h | h
      · have hquiet := attachment.write_calls crash outcome app.machine.files
        exact absurd h (Trace.not_notified_of_calls hquiet)
      · exact h
    obtain ⟨rfl, rfl⟩ := path_of_notified hcalled
    refine ⟨attachment, live, ?_⟩
    rw [hseen, hfiles, hhandled]
    constructor
    · intro truthful short
      exact not_truthful_write attachment short.1 crash outcome short.2 _ _ _ truthful
    · intro h
      by_cases short : DumpFile.CutsShort p attachment.directory
      · exact truthful_write_of_short attachment short (fun hopens => h ⟨short, hopens⟩) crash outcome _
      · exact truthful_write attachment short crash outcome _ _

section

/-- A process whose crashes are dumped to a directory. -/
def watching (directory : List UInt8) : Application .mac :=
  afterRun (.ofWorkingDirectory []) (.fromSeed 0)
    [.attachOwned directory 1 0 ⟨true, false⟩ ⟨none, 0x10⟩]

/-- A crash with a dump that is written. -/
def crashing : Event .mac := .crash (.signal .segv) .written

/-- The path of the first dump. -/
def firstPath (directory : List UInt8) : Path := dumpPath directory ((IdSource.fromSeed 0).id 0).units

/-- At the root, what is reported of the crash is true. -/
theorem truthful_root :
    Truthful (watching []).machine.files ((watching []).after crashing).machine.files
      (firstPath []) true ((watching []).seen crashing) := by
  have hseen : (watching []).seen crashing =
      [.opened [((IdSource.fromSeed 0).id 0).fileName], .asked (.signal .segv),
        .notified 0x10 (.client 1 0) (firstPath [])] := rfl
  have told : .notified 0x10 (.client 1 0) (firstPath []) ∈ (watching []).seen crashing := by
    rw [hseen]
    exact List.mem_cons_of_mem _ (List.mem_cons_of_mem _ List.mem_cons_self)
  obtain ⟨attachment, live, htruthful⟩ := truthful_afterRun_iff (.ofWorkingDirectory [])
    (.fromSeed 0) [.attachOwned [] 1 0 ⟨true, false⟩ ⟨none, 0x10⟩] crashing 0x10 (.client 1 0)
    (firstPath []) true told ⟨rfl, rfl⟩
  have hdirectory : attachment.directory = [] := by
    cases live
    rfl
  refine htruthful.mpr ?_
  intro h
  rw [hdirectory] at h
  cases h.1

/-- In a directory with a nul it is not: the dump lies elsewhere, and the crash counts as handled
although there is no file at the path. -/
theorem not_truthful_nul :
    (watching [0x6E, 0, 0x72]).seen crashing =
        [.opened [[0x6E]], .asked (.signal .segv),
          .notified 0x10 (.client 1 0) (firstPath [0x6E, 0, 0x72])] ∧
      (watching [0x6E, 0, 0x72]).replyTo crashing = .handled true ∧
      ((watching [0x6E, 0, 0x72]).after crashing).machine.files.file?
        (firstPath [0x6E, 0, 0x72]) = none ∧
      ((watching [0x6E, 0, 0x72]).after crashing).machine.files.node? [[0x6E]] =
        some (.file DumpFile.mode DumpFile.minidump) :=
  ⟨rfl, rfl, rfl, rfl⟩

end

end Application

end CrashDump
