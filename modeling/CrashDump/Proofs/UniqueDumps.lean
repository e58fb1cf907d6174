import CrashDump.Proofs.Application.Draws
import CrashDump.Proofs.DumpTrace

/-!
# No id is used twice

An id is drawn when a handler is attached and when a fault reached it, and is kept for the handler's
next dump.  A handler that is detached takes its id with it.  If the source draws no id twice, none
is used for two dumps: no path is reported twice, and no file that was opened for a dump is opened
again for another.

* `IdSource.Distinct`: no id was drawn twice.
* `dumpsIn`: the dumps of a run, each by the handler as its client knew it then.
* `Fresh`: the handlers keep different ids, which no dump has used.
* `fresh_after` and `fresh_afterAll`: a step keeps this, and so does a run.
* `uniqueDumps_afterRun`: the ids, the paths and the files of a run.
-/

namespace CrashDump

variable {p : Platform}

/-! ## Sources -/

/-- No id was drawn twice. -/
def IdSource.Distinct (source : IdSource) : Prop :=
  ∀ first < source.drawn, ∀ second < source.drawn, source.id first = source.id second →
    first = second

theorem IdSource.Distinct.of_advanceBy {source : IdSource} {turns : Nat}
    (distinct : (source.advanceBy turns).Distinct) : source.Distinct :=
  fun first hfirst second hsecond =>
    distinct first (Nat.lt_add_right turns hfirst) second (Nat.lt_add_right turns hsecond)

namespace Application

variable {app : Application p} {roster : Roster p} {event : Event p} {events : List (Event p)}
  {handler : Address} {attachment : Attachment p} {ids : IdSource} {used : List Uuid}

/-- What is seen of a run. -/
def seenAll (app : Application p) (events : List (Event p)) : Trace p :=
  (app.run events).2.flatMap (·.2)

theorem seenAll_cons (app : Application p) (event : Event p) (rest : List (Event p)) :
    app.seenAll (event :: rest) = app.seen event ++ (app.after event).seenAll rest := rfl

/-- The handler that an event reaches as a fault, as its client knows it. -/
def dump? (app : Application p) (roster : Roster p) (event : Event p) : Option (Attachment p) :=
  (app.reached? event).bind roster.get?

/-- The handlers that the faults of a run reach, as their clients know them then. -/
def dumpsIn (app : Application p) (roster : Roster p) : List (Event p) → List (Attachment p)
  | [] => []
  | event :: rest =>
    (app.dump? roster event).toList ++ (app.after event).dumpsIn (roster.after app event) rest

/-! ## The ids of handlers and dumps -/

/-- Each handler keeps an id that was drawn for it alone, and that no dump has used. -/
structure Fresh (ids : IdSource) (roster : Roster p) (used : List Uuid) : Prop where
  drawn : ∀ {handler attachment}, roster.get? handler = some attachment →
    ∃ turn < ids.drawn, attachment.id = ids.id turn
  apart : ∀ {a b x y}, roster.get? a = some x → roster.get? b = some y → x.id = y.id → a = b
  unused : ∀ {handler attachment}, roster.get? handler = some attachment → attachment.id ∉ used
  used_drawn : ∀ id ∈ used, ∃ turn < ids.drawn, id = ids.id turn
  used_nodup : used.Nodup

theorem fresh_empty (ids : IdSource) : Fresh ids (.empty : Roster p) [] where
  drawn h := nomatch h
  apart h := nomatch h
  unused h := nomatch h
  used_drawn _ h := nomatch h
  used_nodup := List.nodup_nil

namespace Fresh

/-- Ids may be drawn for nothing. -/
theorem advance (fresh : Fresh ids roster used) : Fresh ids.advance roster used where
  drawn h := by
    obtain ⟨turn, hturn, hid⟩ := fresh.drawn h
    exact ⟨turn, Nat.lt_succ_of_lt hturn, hid⟩
  apart := fresh.apart
  unused := fresh.unused
  used_drawn id h := by
    obtain ⟨turn, hturn, hid⟩ := fresh.used_drawn id h
    exact ⟨turn, Nat.lt_succ_of_lt hturn, hid⟩
  used_nodup := fresh.used_nodup

/-- An id that is drawn now was not drawn before. -/
theorem next_ne (distinct : ids.advance.Distinct) {id : Uuid}
    (drawn : ∃ turn < ids.drawn, id = ids.id turn) : ids.next ≠ id := by
  obtain ⟨turn, hturn, rfl⟩ := drawn
  intro h
  have hsame := distinct ids.drawn (Nat.lt_succ_self _) turn (Nat.lt_succ_of_lt hturn) h
  exact Nat.lt_irrefl turn (hsame ▸ hturn)

/-- A handler may be given the id that is drawn now. -/
theorem insert (fresh : Fresh ids roster used) (distinct : ids.advance.Distinct)
    (address : Address) (next : attachment.id = ids.next) :
    Fresh ids.advance (roster.insert address attachment) used where
  drawn h := by
    rw [Table.get?_insert] at h
    split at h
    · cases h
      exact ⟨ids.drawn, Nat.lt_succ_self _, next⟩
    · exact fresh.advance.drawn h
  apart {a b x y} ha hb hid := by
    rw [Table.get?_insert] at ha hb
    split at ha <;> split at hb
    · subst_vars
      rfl
    · cases ha
      exact absurd (next.symm.trans hid) (next_ne distinct (fresh.drawn hb))
    · cases hb
      exact absurd (next.symm.trans hid.symm) (next_ne distinct (fresh.drawn ha))
    · exact fresh.apart ha hb hid
  unused h := by
    rw [Table.get?_insert] at h
    split at h
    · cases h
      intro hused
      exact next_ne distinct (fresh.used_drawn _ hused) next.symm
    · exact fresh.unused h
  used_drawn := fresh.advance.used_drawn
  used_nodup := fresh.used_nodup

/-- A handler may go, and its id with it. -/
theorem erase (fresh : Fresh ids roster used) (address : Address) :
    Fresh ids (roster.erase address) used := by
  have hold {handler : Address} {attachment : Attachment p}
      (h : (roster.erase address).get? handler = some attachment) :
      roster.get? handler = some attachment := by
    rw [Table.get?_erase] at h
    split at h
    · cases h
    · exact h
  exact ⟨fun h => fresh.drawn (hold h), fun ha hb => fresh.apart (hold ha) (hold hb),
    fun h => fresh.unused (hold h), fresh.used_drawn, fresh.used_nodup⟩

/-- A dump may use the id of its handler. -/
theorem use (fresh : Fresh ids roster used) (live : roster.get? handler = some attachment) :
    Fresh ids (roster.erase handler) (used ++ [attachment.id]) where
  drawn := (fresh.erase handler).drawn
  apart := (fresh.erase handler).apart
  unused {other another} h := by
    rw [List.mem_append, List.mem_singleton]
    rintro (hused | hid)
    · exact (fresh.erase handler).unused h hused
    · rw [Table.get?_erase] at h
      split at h
      · cases h
      · rename_i hne
        exact hne (fresh.apart h live hid)
  used_drawn id h := by
    rcases List.mem_append.mp h with h | h
    · exact fresh.used_drawn id h
    · rw [List.mem_singleton.mp h]
      exact fresh.drawn live
  used_nodup := by
    rw [List.nodup_append]
    refine ⟨fresh.used_nodup, List.pairwise_singleton .., ?_⟩
    intro id hid other hother hsame
    rw [List.mem_singleton.mp hother] at hsame
    exact fresh.unused live (hsame ▸ hid)

end Fresh

/-! ## Steps and runs -/

theorem id_of_attachment? {id : Uuid} (request : event.attachment? id = some attachment) :
    attachment.id = id := by
  cases event with
  | attachRaw pointer length function userData options surroundings =>
    obtain ⟨directory, -, rfl⟩ := Option.map_eq_some_iff.mp request
    rfl
  | attachOwned => cases request; rfl
  | attachTyped => cases request; rfl
  | _ => cases request

theorem dump?_of_unreached (unreached : app.reached? event = none) :
    app.dump? roster event = none := by
  rw [dump?, unreached]
  rfl

/-- A step keeps the ids apart. -/
theorem fresh_after (coherent : Coherent app roster) (fresh : Fresh app.machine.ids roster used)
    (distinct : (app.after event).machine.ids.Distinct) :
    Fresh (app.after event).machine.ids (roster.after app event)
      (used ++ (app.dump? roster event).toList.map (·.id)) := by
  -- what reaches no handler uses no id
  have hunused (unreached : app.reached? event = none) :
      used ++ (app.dump? roster event).toList.map (·.id) = used := by
    rw [dump?_of_unreached unreached]
    exact List.append_nil used
  cases transition coherent event with
  | @attached address attachment _ machine _ request _ _ _ _ hooked reply hafter =>
    have hids : (app.after event).machine.ids = app.machine.ids.advance := by
      rw [hafter]
      exact Machine.ids_hook hooked
    rw [hunused (reached?_of_attachment? request), Roster.after_of_attached reply request, hids]
    rw [hids] at distinct
    exact fresh.insert distinct address (id_of_attachment? request)
  | @refused _ ids _ _ unreached _ hids _ refusal hafter =>
    have hsame : (app.after event).machine.ids = ids := by
      rw [hafter]
      rfl
    rw [hunused unreached, Roster.after_of_refused refusal unreached, hsame]
    rcases hids with rfl | rfl
    · exact fresh
    · exact fresh.advance
  | @detached handler attachment registry ends _ _ _ reply hafter =>
    have hids : (app.after event).machine.ids = app.machine.ids := by
      rw [hafter]
      exact Machine.ids_unhook ..
    rw [hunused (reached?_of_ended? ends), Roster.after_of_detached reply ends, hids]
    exact fresh.erase handler
  | @faulted handler attachment _ _ _ _ reached live _ _ answers hafter =>
    have hids : (app.after event).machine.ids = app.machine.ids.advance := by
      rw [hafter]
      rfl
    have hdump : app.dump? roster event = some attachment := by
      rw [dump?, reached]
      exact live
    have hrename : roster.rename handler app.machine.ids.next =
        (roster.erase handler).insert handler { attachment with id := app.machine.ids.next } := by
      rw [Table.insert_erase_self, Roster.rename, live]
    rw [hdump, Roster.after_of_faulted reached answers, hrename, hids]
    rw [hids] at distinct
    exact (fresh.use live).insert distinct handler rfl
  | abandoned hevent _ target reply hafter =>
    have unreached := reached?_of_free hevent target
    have hids : (app.after event).machine.ids = app.machine.ids := by
      rw [hafter]
      rfl
    rw [hunused unreached, Roster.after_of_abandoned reply unreached, hids]
    exact fresh
  | quiet unreached _ _ _ unattached undetached hafter =>
    have hids : (app.after event).machine.ids = app.machine.ids := by
      rw [hafter]
      rfl
    rw [hunused unreached, Roster.after_of_quiet unreached unattached undetached, hids]
    exact fresh

theorem distinct_of_afterAll (distinct : (app.afterAll events).machine.ids.Distinct) :
    app.machine.ids.Distinct := by
  obtain ⟨turns, hids, -⟩ := run_setIds app app.machine.ids events
  rw [hids] at distinct
  exact distinct.of_advanceBy

/-- So does a run. -/
theorem fresh_afterAll (coherent : Coherent app roster) (fresh : Fresh app.machine.ids roster used)
    (distinct : (app.afterAll events).machine.ids.Distinct) :
    Fresh (app.afterAll events).machine.ids (roster.afterAll app events)
      (used ++ (app.dumpsIn roster events).map (·.id)) := by
  induction events generalizing app roster used with
  | nil =>
    rw [dumpsIn, List.map_nil, List.append_nil]
    exact fresh
  | cons event rest ih =>
    have distinctAfter : ((app.after event).afterAll rest).machine.ids.Distinct := distinct
    have freshAfter := fresh_after coherent fresh (distinct_of_afterAll distinctAfter)
    rw [dumpsIn, List.map_append, ← List.append_assoc]
    exact ih (coherent_after coherent event) freshAfter distinctAfter

/-! ## Paths and files -/

/-- No file is opened unless a fault reaches a handler. -/
theorem Transition.not_opened (transition : Transition app roster event)
    (unreached : app.reached? event = none) (location : Location) :
    .opened location ∉ app.seen event := by
  cases transition with
  | attached _ _ _ _ _ _ _ _ hseen =>
    rw [hseen]
    simp
  | refused _ _ _ hmemory _ _ hseen =>
    rw [hseen]
    rcases hmemory with rfl | ⟨address, -, rfl⟩ <;> simp
  | detached _ _ _ _ _ _ hseen =>
    rw [hseen]
    simp
  | faulted reached =>
    rw [unreached] at reached
    cases reached
  | abandoned _ _ _ _ _ hseen =>
    rw [hseen]
    simp
  | quiet _ _ _ _ _ _ _ hseen =>
    rw [hseen]
    simp

end Application

namespace Attachment

variable {attachment other : Attachment p}

/-- The path of a dump tells its id. -/
theorem id_eq_of_decode_path (h : p.codec.decode attachment.path = p.codec.decode other.path) :
    attachment.id = other.id := by
  rw [show p.codec.decode attachment.path = _ from
      decode_dumpPath p attachment.directory attachment.id,
    show p.codec.decode other.path = _ from decode_dumpPath p other.directory other.id] at h
  have hnames := List.append_inj_right' h (by
    rw [List.length_cons, List.length_cons, Uuid.length_fileName, Uuid.length_fileName])
  exact Uuid.fileName_injective (List.cons.inj hnames).2

/-- A dump's file has the name of the dump, unless the path is cut short. -/
theorem getLast?_of_openFor (whole : ¬ DumpFile.CutsShort p attachment.directory)
    {files after : FileSystem} {location : Location}
    (hopen : DumpFile.openFor p attachment.path files = .ok (location, after)) :
    location.getLast? = some attachment.id.fileName := by
  obtain ⟨directory, -, -, rfl⟩ := (FileSystem.slot?_eq_some_iff
    attachment.id.isEntry_fileName).mp (attachment.slot?_of_openFor whole hopen)
  exact List.getLast?_concat

/-- One file is opened for a dump at most. -/
theorem files_write (whole : ¬ DumpFile.CutsShort p attachment.directory) (crash : CrashContext)
    (outcome : DumpOutcome) (files : FileSystem) :
    ((DumpFile.write p attachment.path crash outcome files).2.2.files.map (·.getLast?)).Sublist
      [some attachment.id.fileName] := by
  unfold DumpFile.write
  cases hopen : DumpFile.openFor p attachment.path files with
  | error cause => exact List.nil_sublist _
  | ok opened =>
    obtain ⟨location, after⟩ := opened
    have hlast := attachment.getLast?_of_openFor whole hopen
    cases outcome <;> exact (congrArg ([·]) hlast ▸ List.Sublist.refl _)

end Attachment

namespace Application

variable {app : Application p} {roster : Roster p} {event : Event p} {events : List (Event p)}

/-- What a trace shows of dumps: the paths of all of them, and the files of those that were opened. -/
structure Reports (trace : Trace p) (dumps : List (Attachment p)) : Prop where
  paths : trace.paths = dumps.map (·.path)
  invocations : trace.invocations.Sublist (dumps.map fun dump => p.codec.decode dump.path)
  files : (∀ dump ∈ dumps, ¬ DumpFile.CutsShort p dump.directory) →
    (trace.files.map (·.getLast?)).Sublist (dumps.map fun dump => some dump.id.fileName)

theorem Reports.append {first second : Trace p} {dumps others : List (Attachment p)}
    (h₁ : Reports first dumps) (h₂ : Reports second others) :
    Reports (first ++ second) (dumps ++ others) where
  paths := by rw [Trace.paths_append, h₁.paths, h₂.paths, List.map_append]
  invocations := by
    rw [Trace.invocations_append, List.map_append]
    exact h₁.invocations.append h₂.invocations
  files whole := by
    rw [Trace.files_append, List.map_append, List.map_append]
    exact (h₁.files fun dump h => whole dump (List.mem_append_left _ h)).append
      (h₂.files fun dump h => whole dump (List.mem_append_right _ h))

/-- A trace without calls and files shows no dump. -/
theorem reports_nil {trace : Trace p} (calls : trace.calls = []) (files : trace.files = []) :
    Reports trace [] where
  paths := by
    rw [← Trace.paths_calls, calls]
    rfl
  invocations := by
    rw [← Trace.invocations_calls, calls]
    exact List.Sublist.refl _
  files _ := by
    rw [files]
    exact List.Sublist.refl _

/-- What is seen while a dump is written, and of the calls that follow, shows that dump. -/
theorem reports_write (dump : Attachment p) (handler : Address) (crash : CrashContext)
    (outcome : DumpOutcome) (files : FileSystem) :
    Reports ((DumpFile.write p dump.path crash outcome files).2.2 ++ dump.calls handler)
      [dump] where
  paths := by
    rw [Trace.paths_append, ← Trace.paths_calls, dump.write_calls, dump.paths_calls]
    rfl
  invocations := by
    rw [Trace.invocations_append, ← Trace.invocations_calls, dump.write_calls,
      dump.invocations_calls]
    cases dump.event? with
    | none => exact List.nil_sublist _
    | some tag => exact List.Sublist.refl _
  files whole := by
    rw [Trace.files_append, dump.files_calls, List.append_nil]
    exact dump.files_write (whole dump (List.mem_singleton_self dump)) crash outcome files

/-- A step shows its dump, if it has one. -/
theorem reports_seen (coherent : Coherent app roster) (event : Event p) :
    Reports (app.seen event) (app.dump? roster event).toList := by
  have htransition := transition coherent event
  cases reached : app.reached? event with
  | none =>
    rw [dump?_of_unreached reached]
    exact reports_nil (htransition.silent reached).1
      (Trace.files_eq_nil (htransition.not_opened reached))
  | some handler =>
    obtain ⟨attachment, crash, outcome, _, _, live, -, -, -, hseen⟩ :=
      htransition.faulted_of_reached reached
    have hdump : app.dump? roster event = some attachment := by
      rw [dump?, reached]
      exact live
    rw [hdump, hseen]
    exact reports_write attachment handler crash outcome app.machine.files

/-- A run shows its dumps. -/
theorem reports_seenAll (coherent : Coherent app roster) (events : List (Event p)) :
    Reports (app.seenAll events) (app.dumpsIn roster events) := by
  induction events generalizing app roster with
  | nil => exact reports_nil rfl rfl
  | cons event rest ih =>
    rw [seenAll_cons, dumpsIn]
    exact (reports_seen coherent event).append (ih (coherent_after coherent event))

/-- The directory of an attached handler is one that it was attached with. -/
theorem directory_after {handler : Address} {attachment : Attachment p}
    (h : (roster.after app event).get? handler = some attachment) :
    (∃ id other, event.attachment? id = some other ∧ other.directory = attachment.directory) ∨
      ∃ other, roster.get? handler = some other ∧ other.directory = attachment.directory := by
  unfold Roster.after at h
  split at h
  · split at h
    · rename_i other request
      rw [Table.get?_insert] at h
      split at h
      · cases h
        exact .inl ⟨_, _, request, rfl⟩
      · exact .inr ⟨_, h, rfl⟩
    · exact .inr ⟨_, h, rfl⟩
  · split at h
    · rw [Table.get?_erase] at h
      split at h
      · cases h
      · exact .inr ⟨_, h, rfl⟩
    · exact .inr ⟨_, h, rfl⟩
  · split at h
    · have hrename : ∃ another, (roster.rename _ app.machine.ids.next).get? handler =
          some another ∧ another.directory = attachment.directory := ⟨attachment, h, rfl⟩
      exact .inr ((Roster.exists_get?_rename fun _ => Iff.rfl).mp hrename)
    · exact .inr ⟨_, h, rfl⟩

/-- Unless an attach asks for a directory that is cut short, no dump's path is. -/
theorem whole_of_mem_dumpsIn (app : Application p) (roster : Roster p)
    (attached : ∀ {handler attachment}, roster.get? handler = some attachment →
      ¬ DumpFile.CutsShort p attachment.directory)
    (asked : ∀ event ∈ events, ∀ id attachment, event.attachment? id = some attachment →
      ¬ DumpFile.CutsShort p attachment.directory) :
    ∀ dump ∈ app.dumpsIn roster events, ¬ DumpFile.CutsShort p dump.directory := by
  induction events generalizing app roster with
  | nil => exact fun dump h => nomatch h
  | cons event rest ih =>
    intro dump h
    rcases List.mem_append.mp h with h | h
    · obtain ⟨handler, -, live⟩ := Option.bind_eq_some_iff.mp (Option.mem_toList.mp h)
      exact attached live
    · refine ih _ _ ?_ (fun other hother => asked other (List.mem_cons_of_mem _ hother)) dump h
      intro handler attachment live
      rcases directory_after live with ⟨id, other, request, hdirectory⟩ | ⟨other, hother, hdirectory⟩
      · rw [← hdirectory]
        exact asked event List.mem_cons_self id other request
      · rw [← hdirectory]
        exact attached hother

/-- What tells the ids of dumps apart is different for all of them. -/
theorem nodup_map_of_id {A : Type} {dumps : List (Attachment p)}
    (ids : (dumps.map (·.id)).Nodup) {name : Attachment p → A}
    (tells : ∀ {first second}, name first = name second → first.id = second.id) :
    (dumps.map name).Nodup := by
  rw [List.Nodup, List.pairwise_map] at ids ⊢
  exact ids.imp fun hne hname => hne (tells hname)

/-! ## All of it -/

/-- In every run of which the source draws no id twice, each id is used for one dump at most, and
was drawn for it.  The paths that are reported are those of these dumps, and all different, as are
the ones that crash events are given.  Unless an attach asks for a directory that is cut short at a
nul, no file is opened twice. -/
theorem uniqueDumps_afterRun (files : FileSystem) (ids : IdSource) (events : List (Event p))
    (distinct : (afterRun files ids events).machine.ids.Distinct) :
    let source := (afterRun files ids events).machine.ids
    let dumps := (initial p files ids).dumpsIn .empty events
    let trace := (initial p files ids).seenAll events
    (dumps.map (·.id)).Nodup ∧
    (∀ dump ∈ dumps, ∃ turn < source.drawn, dump.id = source.id turn) ∧
    trace.paths = dumps.map (·.path) ∧ trace.paths.Nodup ∧ trace.invocations.Nodup ∧
    ((∀ event ∈ events, ∀ id attachment, event.attachment? id = some attachment →
        ¬ DumpFile.CutsShort p attachment.directory) → trace.files.Nodup) := by
  intro source dumps trace
  have coherent := coherent_initial p files ids
  have fresh : Fresh source (.afterRun files ids events) ([] ++ dumps.map (·.id)) :=
    fresh_afterAll coherent (fresh_empty ids) distinct
  rw [List.nil_append] at fresh
  have reports : Reports trace dumps := reports_seenAll coherent events
  have told : (dumps.map fun dump => p.codec.decode dump.path).Nodup :=
    nodup_map_of_id fresh.used_nodup Attachment.id_eq_of_decode_path
  refine ⟨fresh.used_nodup, ?_, reports.paths, ?_, told.sublist reports.invocations, ?_⟩
  · intro dump h
    exact fresh.used_drawn dump.id (List.mem_map_of_mem h)
  · rw [reports.paths]
    exact nodup_map_of_id fresh.used_nodup fun hpath =>
      Attachment.id_eq_of_decode_path (congrArg p.codec.decode hpath)
  · intro asked
    have whole := whole_of_mem_dumpsIn (initial p files ids) .empty (fun h => nomatch h) asked
    have names : (dumps.map fun dump => some dump.id.fileName).Nodup :=
      nodup_map_of_id fresh.used_nodup fun hname =>
        Uuid.fileName_injective (Option.some.inj hname)
    have ends : (trace.files.map (·.getLast?)).Nodup := names.sublist (reports.files whole)
    exact List.Pairwise.of_map _ (fun _ _ hne h => hne (congrArg _ h)) ends

section

/-- Two handlers, of which one is attached again, and three faults. -/
def threeFaults : List (Event .mac) :=
  [.attachOwned [0x2F, 0x64] 1 0 ⟨true, false⟩ ⟨none, 0x10⟩, .crash (.signal .segv) .failed,
    .attachOwned [] 2 0 ⟨false, true⟩ ⟨none, 0x20⟩, .drop 0x10,
    .attachOwned [0x2F, 0x64] 1 0 ⟨true, false⟩ ⟨none, 0x10⟩, .abort 100 101 .written,
    .crash (.signal .segv) .written]

/-- Two of the files are in the directory `d`, and one is in the root. -/
theorem uniqueDumps_threeFaults :
    let trace := (initial .mac (.ofWorkingDirectory [[0x64]]) (.fromSeed 0)).seenAll threeFaults
    trace.files.length = 3 ∧ trace.paths.Nodup ∧ trace.files.Nodup := by
  have distinct : (afterRun (.ofWorkingDirectory [[0x64]]) (.fromSeed 0)
      threeFaults).machine.ids.Distinct := by
    have hdrawn : ∀ first < 6, ∀ second < 6,
        (IdSource.fromSeed 0).id first = (IdSource.fromSeed 0).id second → first = second := by
      decide +kernel
    exact hdrawn
  have whole : ∀ event ∈ threeFaults, ∀ id attachment, event.attachment? id = some attachment →
      ¬ DumpFile.CutsShort .mac attachment.directory := by
    intro event h id attachment request
    simp only [threeFaults, List.mem_cons, List.not_mem_nil, or_false] at h
    rcases h with rfl | rfl | rfl | rfl | rfl | rfl | rfl <;> cases request <;>
      simp [DumpFile.CutsShort]
  obtain ⟨-, -, -, paths, -, files⟩ := uniqueDumps_afterRun (.ofWorkingDirectory [[0x64]])
    (.fromSeed 0) threeFaults distinct
  exact ⟨rfl, paths, files whole⟩

end

end Application

end CrashDump
