import CrashDump.Proofs.Application.Draws
import CrashDump.Proofs.DumpDirectory
import CrashDump.Proofs.DumpTrace
import CrashDump.Proofs.Permissions
import Mathlib.Data.List.Forall2

/-!
# One contract on every platform

A handler that is attached by way of the typed interface, for crashes, with a directory that is text.
What its client sees of the faults that follow does not depend on the platform, although Linux
composes the path of the next dump ahead of time, mac and windows when a fault comes, and windows in
wide units: it is what a contract says that knows paths, files and ids and no platform.

* `Contract`: the directory, the files, the id of the next dump and the source of the later ones.
* `Contract.fault` and `Contract.run`: what a client sees of a fault, and of several.
* `Meets`: an application has a handler attached that is to deliver as the contract says.
* `Meets.fault` and `Meets.run`: it does, for one fault and for several.
* `Watch`: a typed attach for crashes that succeeds, in a run on a platform.
* `contract_everywhere`: what is seen after it, on all platforms, and which directories are accepted.
-/

namespace CrashDump

open Text

variable {p : Platform}

/-! ## The contract -/

/-- What the client of the typed interface sees of a fault. -/
structure Delivery where
  /-- The path that its crash event is given. -/
  path : Path
  /-- The file that was opened for the dump, if one could be. -/
  file? : Option Location
  /-- Whether the fault counts as handled. -/
  handled : Bool
deriving DecidableEq

/-- A handler, on no platform in particular. -/
structure Contract where
  directory : Path
  files : FileSystem
  /-- The id of the next dump. -/
  id : Uuid
  /-- The source of the ids after it. -/
  ids : IdSource

namespace Contract

variable (contract : Contract)

/-- The path of the next dump. -/
def path : Path := contract.directory ++ Path.separator :: contract.id.fileName

/-- The contract for the dump after the next one, with the files as they are then. -/
def renew (files : FileSystem) : Contract :=
  { contract with files, id := contract.ids.next, ids := contract.ids.advance }

/-- A fault, with what the writer of dumps does: what is seen of it, and the contract afterwards. -/
def fault (outcome : DumpOutcome) : Delivery × Contract :=
  match contract.files.openFile contract.path DumpFile.mode with
  | .error _ => (⟨contract.path, none, false⟩, contract.renew contract.files)
  | .ok (location, files) =>
    match outcome with
    | .written =>
      (⟨contract.path, some location, true⟩,
        contract.renew (files.setContents location DumpFile.minidump))
    | .failed => (⟨contract.path, some location, false⟩, contract.renew files)

/-- Several faults. -/
def run (contract : Contract) : List DumpOutcome → List Delivery × Contract
  | [] => ([], contract)
  | outcome :: rest =>
    let (delivery, contract) := contract.fault outcome
    let (others, contract) := contract.run rest
    (delivery :: others, contract)

theorem fault_path (outcome : DumpOutcome) :
    (contract.fault outcome).1.path = contract.path := by
  unfold fault
  cases contract.files.openFile contract.path DumpFile.mode with
  | error cause => rfl
  | ok opened => cases outcome <;> rfl

/-- Whatever becomes of the files, a fault uses up the id and draws another. -/
theorem exists_fault_renews (outcome : DumpOutcome) :
    ∃ files, (contract.fault outcome).2 = contract.renew files := by
  unfold fault
  cases contract.files.openFile contract.path DumpFile.mode with
  | error cause => exact ⟨_, rfl⟩
  | ok opened => cases outcome <;> exact ⟨_, rfl⟩

end Contract

/-! ## What is seen -/

/-- What the client sees of a delivery: the paths and files in a trace, and the answer. -/
def Delivery.observed (delivery : Delivery) : List Path × List Location × Application.Reply :=
  ([delivery.path], delivery.file?.toList, .handled delivery.handled)

/-- The same of a step. -/
def observed (step : Application.Reply × Trace p) : List Path × List Location × Application.Reply :=
  (step.2.invocations, step.2.files, step.1)

/-! ## One dump -/

/-- A handler is attached as the contract has it. -/
structure Attachment.Under (attachment : Attachment p) (contract : Contract) : Prop where
  source : attachment.source = some .crashHandler
  event : attachment.event? ≠ none
  directory : attachment.directory = p.codec.encode contract.directory
  id : attachment.id = contract.id

/-- The directory of a contract is text without a nul. -/
structure Contract.Plain (contract : Contract) : Prop where
  text : Utf8.IsValid contract.directory
  whole : 0 ∉ contract.directory

namespace Attachment

variable {attachment : Attachment p} {contract : Contract} {files : FileSystem}

theorem Under.decode_path (under : attachment.Under contract) (plain : contract.Plain) :
    p.codec.decode attachment.path = contract.path := by
  have hdecode : p.codec.decode attachment.path =
      p.codec.decode attachment.directory ++ Path.separator :: attachment.id.fileName :=
    decode_dumpPath p attachment.directory attachment.id
  rw [hdecode, under.directory, under.id, Platform.decode_encode fun _ => plain.text]
  rfl

/-- The file of a dump is opened as the decoded path says. -/
theorem Under.exists_openFor (under : attachment.Under contract) (plain : contract.Plain)
    (files : FileSystem) :
    ∃ mode, DumpFile.openFor p attachment.path files = files.openFile contract.path mode := by
  have whole : ¬ DumpFile.CutsShort p attachment.directory := by
    rw [under.directory]
    cases p with
    | linux => exact plain.whole
    | mac => exact plain.whole
    | windows => exact not_false
  have hnul : 0 ∉ contract.path := by
    unfold Contract.path
    rw [nul_mem_dumpPath_iff]
    exact plain.whole
  rcases DumpFile.openFor_cases whole attachment.id files with ⟨hmem, -⟩ | ⟨-, mode, hopen⟩
  · have hmem : 0 ∈ p.codec.decode attachment.path := hmem
    rw [under.decode_path plain] at hmem
    exact absurd hmem hnul
  · have hopen : DumpFile.openFor p attachment.path files =
        files.openFile (p.codec.decode attachment.path) mode := hopen
    rw [under.decode_path plain] at hopen
    exact ⟨mode, hopen⟩

/-- The dump is written as the contract says, but for the permission bits of its file. -/
theorem Under.write (under : attachment.Under contract) (plain : contract.Plain)
    (alike : contract.files.Alike files) (crash : CrashContext) (outcome : DumpOutcome) :
    let written := DumpFile.write p attachment.path crash outcome files
    let faulted := contract.fault outcome
    written.1 = faulted.1.handled ∧ written.2.2.files = faulted.1.file?.toList ∧
      faulted.2.files.Alike written.2.1 := by
  obtain ⟨mode, hopen⟩ := under.exists_openFor plain files
  unfold DumpFile.write Contract.fault
  rw [hopen]
  rcases alike.openFile_cases contract.path DumpFile.mode mode with
    ⟨cause, hfirst, hsecond⟩ | ⟨location, after, counterpart, hfirst, hsecond, hafter⟩
  · rw [hfirst, hsecond]
    exact ⟨rfl, rfl, alike⟩
  · rw [hfirst, hsecond]
    cases outcome with
    | written => exact ⟨rfl, rfl, hafter.setContents location DumpFile.minidump⟩
    | failed => exact ⟨rfl, rfl, hafter⟩

/-- The crash event is given the path of the contract. -/
theorem Under.invocations (under : attachment.Under contract) (plain : contract.Plain)
    (handler : Address) : (attachment.calls handler).invocations = [contract.path] := by
  obtain ⟨tag, htag⟩ := Option.ne_none_iff_exists'.mp under.event
  rw [attachment.invocations_calls, htag, under.decode_path plain]
  rfl

end Attachment

namespace Application

variable {app : Application p} {roster : Roster p} {event : Event p} {handler : Address}
  {contract : Contract} {outcome : DumpOutcome}

/-! ## Steps and runs -/

/-- The event is a fault that the handler is to catch: a crash, or one that is acted out on it. -/
inductive Event.Brings (handler : Address) (outcome : DumpOutcome) : Event p → Prop
  | crash (crash : CrashContext) : Brings handler outcome (.crash crash outcome)
  | simulate (crash : CrashContext) : Brings handler outcome (.simulate handler crash outcome)

/-- The application has a handler attached that is to deliver as the contract says. -/
structure Meets (app : Application p) (roster : Roster p) (handler : Address)
    (contract : Contract) : Prop where
  coherent : Coherent app roster
  attached : ∃ attachment, roster.get? handler = some attachment ∧ attachment.Under contract
  ids : app.machine.ids = contract.ids
  files : contract.files.Alike app.machine.files
  plain : contract.Plain

/-- A fault reaches the handler, and what comes of it is answered. -/
theorem Meets.reached (meets : app.Meets roster handler contract)
    (brings : event.Brings handler outcome) :
    app.reached? event = some handler ∧ (∃ crash, event.fault? = some (crash, outcome)) ∧
      ∀ handled reply before after, event.Answers handled reply before after →
        reply = .handled handled := by
  obtain ⟨attachment, live, under⟩ := meets.attached
  cases brings with
  | crash crash =>
    exact ⟨(meets.coherent.reached?_crash live under.source crash outcome).1, ⟨crash, rfl⟩,
      fun _ _ _ _ h => h.2⟩
  | simulate crash =>
    exact ⟨(meets.coherent.reached?_crash live under.source crash outcome).2, ⟨crash, rfl⟩,
      fun _ _ _ _ h => h.2⟩

/-- A fault is delivered as the contract says. -/
theorem Meets.fault (meets : app.Meets roster handler contract)
    (brings : event.Brings handler outcome) :
    observed (app.replyTo event, app.seen event) = (contract.fault outcome).1.observed ∧
      (app.after event).Meets (roster.after app event) handler (contract.fault outcome).2 := by
  obtain ⟨attachment, live, under⟩ := meets.attached
  obtain ⟨reached, ⟨crash, hfault⟩, answered⟩ := meets.reached brings
  obtain ⟨another, _, _, target, abortSignal, hlive, hbrings, answers, hafter, hseen⟩ :=
    (transition meets.coherent event).faulted_of_reached reached
  rw [live] at hlive
  cases hlive
  rw [hfault] at hbrings
  cases hbrings
  obtain ⟨hhandled, hfiles, halike⟩ := under.write meets.plain meets.files crash outcome
  obtain ⟨files, hrenews⟩ := contract.exists_fault_renews outcome
  have hreply := answered _ _ _ _ answers
  constructor
  · have hinvocations : (app.seen event).invocations = [contract.path] := by
      rw [hseen, Trace.invocations_append, ← Trace.invocations_calls, attachment.write_calls,
        under.invocations meets.plain]
      rfl
    have hopened : (app.seen event).files = (contract.fault outcome).1.file?.toList := by
      rw [hseen, Trace.files_append, attachment.files_calls, List.append_nil, hfiles]
    unfold observed Delivery.observed
    rw [hinvocations, hopened, hreply, hhandled, contract.fault_path]
  · constructor
    · exact coherent_after meets.coherent event
    · refine ⟨{ attachment with id := app.machine.ids.next }, ?_, ?_⟩
      · rw [Roster.after_of_faulted reached answers, Roster.get?_rename, if_pos rfl, live]
        rfl
      · rw [hrenews]
        exact ⟨under.source, under.event, under.directory, congrArg IdSource.next meets.ids⟩
    · rw [hrenews, hafter]
      exact congrArg IdSource.advance meets.ids
    · rw [hafter]
      exact halike
    · rw [hrenews]
      exact ⟨meets.plain.text, meets.plain.whole⟩

/-- So are several. -/
theorem Meets.run {outcomes : List DumpOutcome} {events : List (Event p)}
    (meets : app.Meets roster handler contract)
    (brings : List.Forall₂ (Event.Brings handler) outcomes events) :
    (app.run events).2.map observed = (contract.run outcomes).1.map Delivery.observed ∧
      (contract.run outcomes).2.files.Alike (app.afterAll events).machine.files := by
  induction brings generalizing app roster contract with
  | nil => exact ⟨rfl, meets.files⟩
  | @cons outcome event outcomes events head tail ih =>
    obtain ⟨hobserved, hmeets⟩ := meets.fault head
    obtain ⟨hrest, hfiles⟩ := ih hmeets
    rw [run_cons, List.map_cons, hobserved, hrest]
    exact ⟨rfl, hfiles⟩

/-! ## The typed attach -/

/-- A directory that was made for a typed attach is one that a contract may have. -/
theorem meets_of_attached (coherent : Coherent app roster) {directory : Path}
    {choice : HandlerChoice} {tag : UInt64} {surroundings : Surroundings}
    (text : Utf8.IsValid directory) (catches : p = .mac → choice.options.exceptionHandler = true)
    (reply : app.replyTo (.attachTyped directory choice tag surroundings) = .attached handler) :
    (app.after (.attachTyped directory choice tag surroundings)).Meets
      (roster.after app (.attachTyped directory choice tag surroundings)) handler
      ⟨directory, (app.machine.files.makeDirectories directory).2, app.machine.ids.next,
        app.machine.ids.advance⟩ := by
  obtain ⟨attachment, files, machine, request, prepared, -, hooked, hafter⟩ :=
    attached_of_reply coherent reply
  have hmade : app.machine.files.makeDirectories directory = (.ok (), files) := prepared
  have hattachment : attachment =
      ⟨p.codec.encode directory, .crashEvent tag, choice.options, app.machine.ids.next⟩ :=
    (Option.some.inj request).symm
  have source : attachment.source = some .crashHandler := by
    refine source_eq_crashHandler ?_
    rw [hattachment]
    exact Classical.or_iff_not_imp_left.mpr fun hmac => catches (Classical.not_not.mp hmac)
  constructor
  · exact coherent_after coherent _
  · refine ⟨attachment, ?_, source, ?_, ?_, ?_⟩
    · rw [Roster.after_of_attached reply request, Table.get?_insert_self]
    · rw [hattachment]
      exact Option.some_ne_none tag
    · rw [hattachment]
    · rw [hattachment]
  · rw [hafter]
    exact Machine.ids_hook hooked
  · rw [hafter, hmade]
    have hfiles : machine.files = files := (Machine.frame_hook hooked).2
    show FileSystem.Alike files machine.files
    rw [hfiles]
    exact .refl files
  · exact ⟨text, FileSystem.not_mem_of_makeDirectories hmade⟩

/-- A directory of text that leaves room for the name of a dump in the smallest of the buffers is
accepted if it can be made. -/
theorem attached_attachTyped_iff (coherent : Coherent app roster) {directory : Path}
    {choice : HandlerChoice} {tag : UInt64} {surroundings : Surroundings}
    (text : Utf8.IsValid directory) (short : directory.length ≤ 982)
    (catches : p = .mac → choice.options.exceptionHandler = true)
    (alone : app.typedAttached = false) (free : app.machine.crashHandler = none)
    (unrefused : surroundings.refusal = none) :
    (∃ handler, app.replyTo (.attachTyped directory choice tag surroundings) =
        .attached handler) ↔
      (app.machine.files.makeDirectories directory).1 = .ok () := by
  constructor
  · rintro ⟨handler, reply⟩
    obtain ⟨_, files, _, -, prepared, -⟩ := attached_of_reply coherent reply
    exact congrArg (·.1) prepared
  · intro made
    have hlength : (p.codec.encode directory).length ≤ 982 := by
      cases p with
      | linux => exact short
      | mac => exact short
      | windows => exact Nat.le_trans (Codec.length_utf16_encode_le text) short
    have hcapacity : 1024 ≤ p.maxPathUnits := by
      cases p <;> decide
    have asks : Event.Asks (.attachTyped directory choice tag surroundings) app
        ⟨p.codec.encode directory, .crashEvent tag, choice.options, app.machine.ids.next⟩ := by
      refine ⟨rfl, ?_, made⟩
      rw [requiredUnits_eq]
      exact Nat.le_trans (Nat.add_le_add_right hlength 42) hcapacity
    refine (attached_iff coherent asks).mpr ⟨fun _ => alone, ?_⟩
    rw [source_eq_crashHandler
      (Classical.or_iff_not_imp_left.mpr fun hmac => catches (Classical.not_not.mp hmac))]
    exact ⟨by rw [Event.refusal?, unrefused, Option.bind_none], free⟩

end Application

open Application

/-! ## All platforms -/

/-- A typed attach for crashes that succeeds, in a run on a platform. -/
structure Watch (p : Platform) (directory : Path) where
  /-- The files in the beginning. -/
  start : FileSystem
  /-- The source of ids in the beginning. -/
  source : IdSource
  earlier : List (Event p)
  choice : HandlerChoice
  tag : UInt64
  surroundings : Surroundings
  handler : Address
  catches : p = .mac → choice.options.exceptionHandler = true
  reply : (afterRun start source earlier).replyTo
    (.attachTyped directory choice tag surroundings) = .attached handler

namespace Watch

variable {directory : Path}

/-- The application before the attach. -/
def before (watch : Watch p directory) : Application p :=
  afterRun watch.start watch.source watch.earlier

/-- The application after it. -/
def app (watch : Watch p directory) : Application p :=
  watch.before.after (.attachTyped directory watch.choice watch.tag watch.surroundings)

/-- The contract that the handler is to deliver by. -/
def contract (watch : Watch p directory) : Contract :=
  ⟨directory, (watch.before.machine.files.makeDirectories directory).2,
    watch.before.machine.ids.next, watch.before.machine.ids.advance⟩

theorem exists_meets (watch : Watch p directory) (text : Utf8.IsValid directory) :
    ∃ roster, watch.app.Meets roster watch.handler watch.contract := by
  have coherent := coherent_afterRun watch.start watch.source watch.earlier
  exact ⟨_, meets_of_attached coherent text watch.catches watch.reply⟩

end Watch

/-- A typed attach for crashes succeeds, with a directory that is text, and faults follow.  On every
platform its client sees what the contract says: the paths, the files that are opened, and the
answers.  So it sees the same on any two, if the files, the ids and the outcomes are the same.  A
directory of at most 982 bytes is accepted if it can be made, whatever the platform. -/
theorem contract_everywhere (directory : Path) (text : Utf8.IsValid directory) :
    (∀ (p : Platform) (watch : Watch p directory) outcomes events,
      List.Forall₂ (Event.Brings watch.handler) outcomes events →
        (watch.app.run events).2.map observed =
            (watch.contract.run outcomes).1.map Delivery.observed ∧
          (watch.contract.run outcomes).2.files.Alike (watch.app.afterAll events).machine.files) ∧
    (∀ (p q : Platform) (first : Watch p directory) (second : Watch q directory),
      first.before.machine.files = second.before.machine.files →
      first.before.machine.ids = second.before.machine.ids →
      ∀ outcomes events others, List.Forall₂ (Event.Brings first.handler) outcomes events →
        List.Forall₂ (Event.Brings second.handler) outcomes others →
        (first.app.run events).2.map observed = (second.app.run others).2.map observed) ∧
    (directory.length ≤ 982 → ∀ (p : Platform) files ids (earlier : List (Event p)) choice tag
      surroundings,
      let app := afterRun files ids earlier
      app.typedAttached = false → app.machine.crashHandler = none → surroundings.refusal = none →
      (p = .mac → choice.options.exceptionHandler = true) →
      ((∃ handler, app.replyTo (.attachTyped directory choice tag surroundings) =
          .attached handler) ↔
        (app.machine.files.makeDirectories directory).1 = .ok ())) := by
  have refines (p : Platform) (watch : Watch p directory) (outcomes : List DumpOutcome)
      (events : List (Event p)) (brings : List.Forall₂ (Event.Brings watch.handler) outcomes events) :
      (watch.app.run events).2.map observed =
          (watch.contract.run outcomes).1.map Delivery.observed ∧
        (watch.contract.run outcomes).2.files.Alike (watch.app.afterAll events).machine.files := by
    obtain ⟨roster, meets⟩ := watch.exists_meets text
    exact meets.run brings
  refine ⟨refines, ?_, ?_⟩
  · intro p q first second files ids outcomes events others brings others_bring
    have hcontract : first.contract = second.contract := by
      unfold Watch.contract
      rw [files, ids]
    rw [(refines p first outcomes events brings).1,
      (refines q second outcomes others others_bring).1, hcontract]
  · intro short p files ids earlier choice tag surroundings app alone free unrefused catches
    exact attached_attachTyped_iff (coherent_afterRun files ids earlier) text short catches alone
      free unrefused

section

/-- A typed attach with the directory `d`, in a process that just started. -/
def watchNamed (p : Platform) : Watch p [0x64] where
  start := .ofWorkingDirectory []
  source := .fromSeed 0
  earlier := []
  choice := .exceptionHandler
  tag := 7
  surroundings := ⟨none, 0x10⟩
  handler := 0x10
  catches _ := rfl
  reply := by cases p <;> rfl

/-- A dump that is written, and one that fails. -/
def twoOutcomes : List DumpOutcome := [.written, .failed]

/-- They come by signals on Linux, are acted out on windows, and on mac one comes by an exception and
one is acted out.  What is seen is the same, and the directory is accepted. -/
theorem contract_named :
    let signals : List (Event .linux) :=
      [.crash (.signal .segv) .written, .crash (.signal .bus) .failed]
    let simulated : List (Event .windows) :=
      [.simulate 0x10 (.structured ⟨1, 2, 3⟩ none) .written,
        .simulate 0x10 (.structured ⟨1, 2, 3⟩ none) .failed]
    let exceptions : List (Event .mac) :=
      [.crash (.exception ⟨1, 2, 3⟩ (some ⟨1, 2, none⟩)) .written,
        .simulate 0x10 (.structured ⟨1, 2, 3⟩ none) .failed]
    ((watchNamed .linux).app.run signals).2.map observed =
        ((watchNamed .windows).app.run simulated).2.map observed ∧
      ((watchNamed .linux).app.run signals).2.map observed =
        ((watchNamed .mac).app.run exceptions).2.map observed ∧
      ∃ handler, (watchNamed .mac).before.replyTo
        (.attachTyped [0x64] .bothHandlers 7 ⟨none, 0x10⟩) = .attached handler := by
  intro signals simulated exceptions
  have text : Utf8.IsValid [0x64] := ⟨['d'], rfl⟩
  obtain ⟨-, same, accepted⟩ := contract_everywhere [0x64] text
  have brought : List.Forall₂ (Event.Brings (watchNamed .linux).handler) twoOutcomes signals :=
    .cons (.crash _) (.cons (.crash _) .nil)
  refine ⟨?_, ?_, ?_⟩
  · exact same .linux .windows (watchNamed .linux) (watchNamed .windows) rfl rfl twoOutcomes _ _
      brought (.cons (.simulate _) (.cons (.simulate _) .nil))
  · exact same .linux .mac (watchNamed .linux) (watchNamed .mac) rfl rfl twoOutcomes _ _
      brought (.cons (.crash _) (.cons (.simulate _) .nil))
  · exact (accepted (by decide) .mac (.ofWorkingDirectory []) (.fromSeed 0) [] .bothHandlers 7
      ⟨none, 0x10⟩ rfl rfl rfl fun _ => rfl).mpr rfl

end

end CrashDump
