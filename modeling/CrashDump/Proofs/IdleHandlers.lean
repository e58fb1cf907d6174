import CrashDump.Proofs.Application.Attach
import CrashDump.Proofs.Application.Live
import CrashDump.Proofs.Application.Targets
import CrashDump.Proofs.FailedAttach
import CrashDump.Proofs.OptionWords
import CrashDump.Proofs.RawHandles
import CrashDump.Proofs.ReportedPath

/-!
# Handlers that hook nothing

On mac an attach may select no fault source.  The handler that it attaches is idle: it takes
nothing that another one needs, nobody is told of dumps through it, and a run goes on without it as
it does with it, but for one id that is drawn.

* `Event.Idle`: an attach that selects no fault source, and `ending`, the detach of its handler.
* `exists_attached_iff`: such an attach fails only for its directory.
* `not_notified_of_source`: a handler that hooks nothing is told nothing.
* `twins_idle`: the applications with and without an idle handler are twins.
* `twins_run_pinned`: they stay so, if the allocator makes the same choices for both.
* `detach_presence`: the detach of the handler leaves no difference.
* `optionWords_afterRun`: which options matter in a run.
-/

namespace CrashDump

theorem InstallOptions.eq_of_isEmpty {options : InstallOptions} (h : options.isEmpty = true) :
    options = ⟨false, false⟩ := by
  rcases options with ⟨_ | _, _ | _⟩
  · rfl
  · cases h
  · cases h
  · cases h

namespace Application

/-! ## Idle attaches -/

/-- An attach for a handler that hooks nothing, held as a raw handle or owned: the two lowest bits
of its option word are clear, or its options are empty. -/
inductive Event.Idle : Bool → Event .mac → Prop where
  | raw {pointer : Option (List UInt8)} {length function : Nat} {userData : UInt64}
      {word : UInt32} {surroundings : Surroundings} (clear : word &&& 3 = 0) :
      Idle true (.attachRaw pointer length function userData word surroundings)
  | owned {directory : List UInt8} {function : Nat} {userData : UInt64}
      {options : InstallOptions} {surroundings : Surroundings} (clear : options.isEmpty = true) :
      Idle false (.attachOwned directory function userData options surroundings)

/-- The detach of a handler by the one who holds it. -/
def ending (raw : Bool) (handler : Address) : Event .mac :=
  if raw then .detachRaw handler else .drop handler

variable {app other : Application .mac} {roster : Roster .mac} {attach event : Event .mac}
  {handler : Address} {raw : Bool}

/-- What an idle attach asks for. -/
theorem Event.Idle.of_attachment? (idle : attach.Idle raw) {id : Uuid}
    {attachment : Attachment .mac} (request : attach.attachment? id = some attachment) :
    attachment.source = none ∧ attachment.raw = raw ∧ attachment.event? = none := by
  cases idle with
  | @raw _ _ _ _ word _ clear =>
    obtain ⟨directory, -, rfl⟩ := Option.map_eq_some_iff.mp request
    refine ⟨?_, rfl, rfl⟩
    show FaultSource.ofOptions? .mac (.ofWord word) = none
    rw [← InstallOptions.ofWord_and_three, clear]
    rfl
  | owned clear =>
    cases request
    refine ⟨?_, rfl, rfl⟩
    show FaultSource.ofOptions? .mac _ = none
    rw [InstallOptions.eq_of_isEmpty clear]
    rfl

theorem Event.Idle.exists_nextAddress (idle : attach.Idle raw)
    (reply : app.replyTo attach = .attached handler) :
    ∃ preferred, handler = app.host.nextAddress preferred := by
  cases idle with
  | @raw pointer length _ _ _ surroundings clear =>
    by_cases readable : pointer = none ∧ length ≠ 0
    · rw [replyTo_of_step (step_attachRaw_null readable)] at reply
      cases reply
    · have reply' := (replyTo_attachRaw_iff readable rfl).mp reply
      exact ⟨_, eq_nextAddress_of_attachOwned reply'⟩
  | owned clear => exact ⟨_, eq_nextAddress_of_attachOwned reply⟩

/-- An idle attach succeeds whatever is taken already, if its directory is accepted. -/
theorem exists_attached_iff (coherent : Coherent app roster) (idle : attach.Idle raw) :
    (∃ handler, handler ≠ 0 ∧ app.replyTo attach = .attached handler) ↔
      ∃ attachment, attach.Asks app attachment := by
  constructor
  · rintro ⟨handler, -, reply⟩
    obtain ⟨attachment, files, machine, request, prepared, -⟩ := attached_of_reply coherent reply
    have coherent' := coherent_after coherent attach
    rw [Roster.after_of_attached reply request] at coherent'
    exact ⟨attachment, request, coherent'.fits (Table.get?_insert_self ..),
      congrArg Prod.fst prepared⟩
  · rintro ⟨attachment, asks⟩
    obtain ⟨source, -, eventless⟩ := idle.of_attachment? asks.request
    have admits : app.machine.Admits attach.refusal? attachment.source := by
      rw [source]
      trivial
    obtain ⟨handler, reply⟩ :=
      exists_attached_of_asks asks (fun passed => absurd eventless passed) admits
    obtain ⟨preferred, heq⟩ := idle.exists_nextAddress reply
    refine ⟨handler, ?_, reply⟩
    rw [heq]
    exact nextAddress_ne_zero app preferred

/-! ## What an idle handler is told -/

section

variable {p : Platform} {app : Application p} {roster : Roster p} {event : Event p}

/-- A fault reaches handlers that hooked something. -/
theorem source_of_reached (coherent : Coherent app roster)
    (reached : app.reached? event = some handler) :
    ∃ attachment, roster.get? handler = some attachment ∧ attachment.source ≠ none := by
  have ofCrash (held : app.machine.crashHandler = some handler) :
      ∃ attachment, roster.get? handler = some attachment ∧ attachment.source ≠ none := by
    obtain ⟨attachment, live, source⟩ := (coherent.crashHandler handler).mp held
    exact ⟨attachment, live, by rw [source]; exact Option.some_ne_none _⟩
  cases event with
  | simulate other crash outcome =>
    simp only [reached?] at reached
    split at reached
    · rename_i held
      rw [held] at ofCrash
      exact ofCrash reached
    · cases reached
  | crash crash outcome => exact ofCrash reached
  | abort task thread outcome =>
    simp only [reached?] at reached
    split at reached
    · obtain ⟨attachment, live, source⟩ := coherent.abortTarget reached
      exact ⟨attachment, live, by rw [source]; exact Option.some_ne_none _⟩
    · cases reached
  | _ => cases reached

/-- A handler that hooks nothing is told nothing. -/
theorem not_notified_of_source (coherent : Coherent app roster) {attachment : Attachment p}
    (live : roster.get? handler = some attachment) (source : attachment.source = none)
    {context : HandlerContext} {path : List p.PathUnit} :
    .notified handler context path ∉ app.seen event := by
  intro told
  obtain ⟨_, -, reached, -⟩ := reached_of_notified coherent told
  obtain ⟨another, live', hooked⟩ := source_of_reached coherent reached
  rw [live] at live'
  cases live'
  exact hooked source

/-- So it is told nothing in a run that does not detach it, nor by what comes next. -/
theorem not_notified_run (coherent : Coherent app roster) {attachment : Attachment p}
    (live : roster.get? handler = some attachment) (source : attachment.source = none)
    {events : List (Event p)} (stays : app.Stays handler events) (next : Event p) :
    ∀ result ∈ (app.run (events ++ [next])).2, ∀ context path,
      .notified handler context path ∉ result.2 := by
  induction events generalizing app roster attachment with
  | nil =>
    intro result hresult context path
    obtain rfl := List.mem_singleton.mp hresult
    exact not_notified_of_source coherent live source
  | cons event rest ih =>
    intro result hresult context path
    rw [List.cons_append, run_cons, List.mem_cons] at hresult
    rcases hresult with rfl | hrest
    · exact not_notified_of_source coherent live source
    · obtain ⟨id, live'⟩ := exists_get?_after coherent live stays.1
      exact ih (coherent_after coherent event) live' source stays.2 result hrest context path

end

/-! ## With and without an idle handler -/

/-- An idle attach leaves a handler behind, and draws an id. -/
theorem twins_idle (coherent : Coherent app roster) (tidy : Tidy app roster)
    (idle : attach.Idle raw) (reply : app.replyTo attach = .attached handler) :
    Twins (.presence handler raw) (app.after attach) (app.setIds app.machine.ids.advance) := by
  have free : roster.get? handler = none := by
    obtain ⟨preferred, rfl⟩ := idle.exists_nextAddress reply
    exact coherent.get?_nextAddress preferred
  obtain ⟨attachment, files, machine, request, prepared, -, hooked, hafter⟩ :=
    attached_of_reply coherent reply
  obtain ⟨source, hraw, eventless⟩ := idle.of_attachment? request
  -- no directory is made, and hooking nothing leaves the machine as it is
  obtain rfl : files = app.machine.files := by
    cases idle <;> exact (congrArg Prod.snd prepared).symm
  rw [source] at hooked
  obtain rfl := (Prod.mk.inj hooked).2
  rw [hafter]
  refine
    { machine := rfl
      targets := Table.agreesOff_insert _ _ _
      contexts := Table.agreesOff_insert _ _ _
      handlers := Table.agreesOff_insert _ _ _
      registry := ?_
      events := ?_
      typedAttached := ?_
      kept := ⟨?_, ?_, ?_, tidy handler free, ?_⟩ }
  · simp only [enrol, hraw]
    cases raw with
    | true => exact (List.perm_append_singleton handler app.host.registry.handles).symm
    | false => exact List.Perm.refl _
  · simp only [enrol, eventless]
    rfl
  · simp only [enrol, eventless]
    exact (Bool.or_false _).symm
  · simp only [enrol, Table.get?_insert_self]
    exact Option.some_ne_none _
  · simp only [enrol, Table.get?_insert_self, Attachment.handler, source, hraw]
  · rw [← Option.map_eq_none_iff (f := (·.context handler)), ← coherent.contexts] at free
    exact free
  · rw [← Option.map_eq_none_iff (f := (·.handler handler)), ← coherent.handlers] at free
    exact free

/-- A detach of the extra handler that is not answered is not answered without it. -/
theorem corresponds_unanswered (twins : Twins (.presence handler raw) app other)
    (ends : event.ended? = some handler) (stays : ¬ app.Detaches event handler) :
    Corresponds (.presence handler raw) (app.step event) (other.step event) := by
  cases event with
  | detachRaw handle =>
    simp only [Event.ended?] at ends
    split at ends
    · cases ends
    · rename_i nonnull
      obtain rfl := Option.some.inj ends
      cases hremove : app.host.registry.remove handle with
      | ok registry =>
        refine absurd ⟨if_neg nonnull, ?_⟩ stays
        simp only [replyTo, step, detachRaw, nonnull, if_false, Host.takeBack, hremove]
        cases app.host.handlerBehind? handle <;> rfl
      | error misuse =>
        have hout : handle ∉ other.host.registry.handles := by
          intro hmem
          have hmem' := twins.registry.mem_iff.mp (List.mem_append_right _ hmem)
          exact (Registry.remove_eq_error_iff.mp hremove).1 hmem'
        have hremove' : other.host.registry.remove handle = .error misuse :=
          Registry.remove_eq_error_iff.mpr ⟨hout, (Registry.remove_eq_error_iff.mp hremove).2⟩
        simp only [step, detachRaw, nonnull, if_false, Host.takeBack, hremove, hremove']
        exact ⟨rfl, twins, rfl⟩
  | drop another =>
    obtain rfl := Option.some.inj ends
    cases raw with
    | true =>
      simp only [step, drop?, twins.kept.idle, twins.kept.native, if_true, Option.isSome_some]
      exact ⟨rfl, twins, rfl⟩
    | false =>
      refine absurd ⟨rfl, ?_⟩ stays
      simp only [replyTo, step, drop?, twins.kept.idle, Bool.false_eq_true, if_false,
        Option.isSome_none]
  | _ => cases ends

/-- The same step, where the allocator makes the same choice. -/
theorem corresponds_pin (twins : Twins (.presence handler raw) app other)
    (coherent : Coherent app roster) (stays : ¬ app.Detaches event handler) :
    Corresponds (.presence handler raw) (app.step event) (other.step (app.pin event)) := by
  by_cases ends : event.ended? = some handler
  · -- no address is handed out
    have hpin : app.pin event = event := by
      cases event with
      | attachRaw | attachOwned | attachTyped => cases ends
      | _ => rfl
    rw [hpin]
    exact corresponds_unanswered twins ends stays
  · rw [← step_pin app event]
    apply corresponds_step twins coherent (app.pin event)
    · intro another hidden
      cases hidden
      rw [ended?_pin]
      exact ends
    · -- the address that is written down is free in both
      intro preferred hpreferred
      rw [preferred?_pin] at hpreferred
      obtain ⟨before, -, rfl⟩ := Option.map_eq_some_iff.mp hpreferred
      have free := get?_contexts_nextAddress app before
      have free' : other.host.contexts.get? (app.host.nextAddress before) = none := by
        rw [twins.contexts _ (twins.ne_of_free free)]
        exact free
      rw [nextAddress_nextAddress, nextAddress_of_free (nextAddress_ne_zero app before) free']

/-- Runs with and without an idle handler are the same, up to its detach. -/
theorem twins_run_pinned (twins : Twins (.presence handler raw) app other)
    (coherent : Coherent app roster) {events : List (Event .mac)}
    (stays : app.Stays handler events) :
    (other.run (app.pinned events)).2 = (app.run events).2 ∧
      Twins (.presence handler raw) (app.afterAll events)
        (other.afterAll (app.pinned events)) := by
  induction events generalizing app other roster with
  | nil => exact ⟨rfl, twins⟩
  | cons event rest ih =>
    have corresponds := corresponds_pin twins coherent stays.1
    obtain ⟨hrest, twins'⟩ := ih corresponds.twins (coherent_after coherent event) stays.2
    exact ⟨corresponds.run_cons hrest, twins'⟩

/-- With the detach of the handler, the difference is gone. -/
theorem detach_presence (twins : Twins (.presence handler raw) app other) (one : app.OneAddress)
    (nonnull : handler ≠ 0) (eventless : app.events.get? handler = none) :
    app.replyTo (ending raw handler) = .done ∧
      Twins .none (app.after (ending raw handler)) other := by
  have forgotten {registry : Registry} (lends : Registry.Lends [] registry other.host.registry) :
      Twins .none (app.forget handler ⟨none, handler⟩ registry) other :=
    { machine := twins.machine
      targets := twins.targets.erase_left twins.kept.target
      contexts := twins.contexts.erase_left twins.kept.context
      handlers := twins.handlers.erase_left twins.kept.native
      registry := lends
      events := twins.events
      typedAttached := twins.typedAttached
      kept := trivial }
  cases raw with
  | true =>
    obtain ⟨registry, hremove, lends⟩ := twins.registry.exists_remove
    have hstep : app.step (ending true handler) = _ :=
      step_detachRaw_of_out one nonnull twins.kept.idle hremove
    rw [after_of_step hstep]
    exact ⟨replyTo_of_step hstep, forgotten lends⟩
  | false =>
    have hstep : app.step (ending false handler) = _ :=
      step_drop_of_owned twins.kept.idle eventless
    rw [after_of_step hstep]
    exact ⟨replyTo_of_step hstep, forgotten twins.registry⟩

/-! ## Whole runs -/

theorem length_run {p : Platform} (app : Application p) (events : List (Event p)) :
    (app.run events).2.length = events.length := by
  induction events generalizing app with
  | nil => rfl
  | cons event rest ih =>
    rw [run_cons, List.length_cons, List.length_cons, ih]

/-- What is drawn after a run and not used can be left out of the source from the start. -/
theorem run_skip {p : Platform} (files : FileSystem) (ids : IdSource)
    (earlier events : List (Event p)) :
    let app := afterRun files ids earlier
    let other := app.setIds app.machine.ids.advance
    ∃ last, (initial p files (ids.skip app.machine.ids.drawn)).run (earlier ++ events) =
      ((other.afterAll events).setIds last,
        ((initial p files ids).run earlier).2 ++ (other.run events).2) := by
  intro app other
  generalize hothers : ids.skip app.machine.ids.drawn = others
  obtain ⟨first, hfirst, hearlier⟩ := run_setIds (initial p files ids) others earlier
  obtain ⟨turns, -, hevents⟩ := run_setIds other (others.advanceBy first) events
  have hids : app.machine.ids = ids.advanceBy first := hfirst
  have hdrawn : app.machine.ids.drawn = ids.drawn + first := congrArg IdSource.drawn hids
  rw [hdrawn] at hothers
  -- up to the draw the sources agree, and behind it the first one is a draw ahead
  have hbefore : (initial p files others).run earlier =
      (app.setIds (others.advanceBy first), ((initial p files ids).run earlier).2) := by
    apply hearlier
    rw [← hothers]
    exact ids.agree_skip first
  have hbehind : (app.setIds (others.advanceBy first)).run events =
      ((other.afterAll events).setIds ((others.advanceBy first).advanceBy turns),
        (other.run events).2) := by
    apply hevents
    show IdSource.Agree turns app.machine.ids.advance _
    rw [← hothers, hids]
    exact ids.agree_advance_skip first turns
  refine ⟨(others.advanceBy first).advanceBy turns, ?_⟩
  rw [run_append, afterAll, hbefore, hbehind]

/-- From an idle attach to the detach of its handler, and beyond. -/
theorem run_idle (coherent : Coherent app roster) (tidy : Tidy app roster)
    (idle : attach.Idle raw) (reply : app.replyTo attach = .attached handler)
    {between : List (Event .mac)} (stays : (app.after attach).Stays handler between)
    (later : List (Event .mac)) :
    let attached := app.after attach
    let ended := (attached.afterAll between).after (ending raw handler)
    let other := app.setIds app.machine.ids.advance
    (attached.afterAll between).replyTo (ending raw handler) = .done ∧
    (other.run (attached.pinned between ++ later)).2 =
      (attached.run between).2 ++ (ended.run later).2 ∧
    Twins .none (ended.afterAll later) (other.afterAll (attached.pinned between ++ later)) := by
  intro attached ended other
  have coherent' : Coherent attached (roster.after app attach) := coherent_after coherent attach
  obtain ⟨hbetween, twins⟩ :=
    twins_run_pinned (twins_idle coherent tidy idle reply) coherent' stays
  have nonnull : handler ≠ 0 := by
    obtain ⟨preferred, rfl⟩ := idle.exists_nextAddress reply
    exact nextAddress_ne_zero app preferred
  have coherent'' := coherent_afterAll coherent' between
  have eventless : (attached.afterAll between).events.get? handler = none := by
    obtain ⟨attachment, files, machine, request, -⟩ := attached_of_reply coherent reply
    have live : (roster.after app attach).get? handler = some attachment := by
      rw [Roster.after_of_attached reply request, Table.get?_insert_self]
    obtain ⟨id, live'⟩ := exists_get?_afterAll coherent' live stays
    rw [coherent''.events, live']
    exact (idle.of_attachment? request).2.2
  obtain ⟨hended, twins'⟩ := detach_presence twins coherent''.oneAddress nonnull eventless
  obtain ⟨hlater, equal⟩ := twins_run twins' (coherent_after coherent'' (ending raw handler))
    (fun _ _ => Difference.noConfusion) later fun _ _ _ hidden => by cases hidden
  refine ⟨hended, ?_, ?_⟩
  · rw [run_append, hbetween, hlater]
  · rw [afterAll_append]
    exact equal

theorem eraseIdx_length_append {A : Type} (front back : List A) (middle : A) :
    (front ++ middle :: back).eraseIdx front.length = front ++ back := by
  rw [List.eraseIdx_append_of_length_le (Nat.le_refl _), Nat.sub_self, List.eraseIdx_cons_zero]

/-- The results of a run without those of two events of it. -/
theorem eraseIdx_run {p : Platform} (app : Application p) (earlier between later : List (Event p))
    (first second : Event p) :
    let attached := (app.afterAll earlier).after first
    let ended := (attached.afterAll between).after second
    ((app.run (earlier ++ first :: (between ++ second :: later))).2.eraseIdx
        earlier.length).eraseIdx (earlier.length + between.length) =
      (app.run earlier).2 ++ ((attached.run between).2 ++ (ended.run later).2) := by
  intro attached ended
  have hlength : earlier.length + between.length =
      ((app.run earlier).2 ++ (attached.run between).2).length := by
    rw [List.length_append, length_run, length_run]
  rw [run_append, run_cons, run_append, run_cons, hlength, ← length_run app earlier,
    eraseIdx_length_append, ← List.append_assoc, eraseIdx_length_append, List.append_assoc]

/-- Option words matter where they should, and nowhere else.

In every run, the option words of attaches may be replaced by others that select alike, and typed
options likewise: any others on linux and windows, and on mac those with the same two lowest bits.
The run stays the same.

On mac an attach with both of these bits clear succeeds at any time if its directory is accepted.
From then on, up to its detach, the handler is told nothing.  The run without that attach and that
detach goes the same way, where the allocator makes the same choices and the id is left out that
the attach draws: all other answers and traces are the same, and so is, but for the source of ids,
the application at the end. -/
theorem optionWords_afterRun :
    (∀ (p : Platform) (files : FileSystem) (ids : IdSource) (events others : List (Event p)),
      List.Forall₂ Event.Reworded events others →
      (initial p files ids).run others = (initial p files ids).run events) ∧
    ∀ (files : FileSystem) (ids : IdSource) (earlier : List (Event .mac)) (raw : Bool)
      (attach : Event .mac), attach.Idle raw →
      let app := afterRun files ids earlier
      ((∃ handler, handler ≠ 0 ∧ app.replyTo attach = .attached handler) ↔
        ∃ attachment, attach.Asks app attachment) ∧
      ∀ handler, app.replyTo attach = .attached handler →
        let attached := app.after attach
        ∀ between, attached.Stays handler between →
          (∀ next, ∀ result ∈ (app.run (attach :: (between ++ [next]))).2, ∀ context path,
            .notified handler context path ∉ result.2) ∧
          (attached.afterAll between).replyTo (ending raw handler) = .done ∧
          attached.run (attached.pinned between) = attached.run between ∧
          ∀ later,
            let events := earlier ++ attach :: (between ++ ending raw handler :: later)
            let others := earlier ++ (attached.pinned between ++ later)
            let source := ids.skip app.machine.ids.drawn
            ((initial .mac files source).run others).2 =
              (((initial .mac files ids).run events).2.eraseIdx earlier.length).eraseIdx
                (earlier.length + between.length) ∧
            ∃ last, Twins .none (afterRun files ids events)
              ((afterRun files source others).setIds last) := by
  constructor
  · intro p files ids events others reworded
    exact run_reworded reworded
  intro files ids earlier raw attach idle app
  have coherent : Coherent app (.afterRun files ids earlier) := coherent_afterRun files ids earlier
  have tidy : Tidy app (.afterRun files ids earlier) := tidy_afterRun files ids earlier
  refine ⟨exists_attached_iff coherent idle, ?_⟩
  intro handler reply attached between stays
  obtain ⟨attachment, -, -, request, -⟩ := attached_of_reply coherent reply
  have live : ((Roster.afterRun files ids earlier).after app attach).get? handler =
      some attachment := by
    rw [Roster.after_of_attached reply request, Table.get?_insert_self]
  refine ⟨?_, (run_idle coherent tidy idle reply stays []).1, run_pinned attached between, ?_⟩
  · intro next result hresult context path
    rw [run_cons, List.mem_cons] at hresult
    rcases hresult with rfl | hlater
    · have silent := (transition coherent attach).silent (reached?_of_attachment? request)
      exact Trace.not_notified_of_calls silent.1
    · exact not_notified_run (coherent_after coherent attach) live
        (idle.of_attachment? request).1 stays next result hlater context path
  · intro later events others source
    obtain ⟨-, hsame, equal⟩ := run_idle coherent tidy idle reply stays later
    obtain ⟨last, hskip⟩ := run_skip files ids earlier (attached.pinned between ++ later)
    constructor
    · rw [eraseIdx_run, hskip, hsame]
      rfl
    · refine ⟨(app.setIds app.machine.ids.advance).afterAll
        (attached.pinned between ++ later) |>.machine.ids, ?_⟩
      have hevents : afterRun files ids events =
          ((attached.afterAll between).after (ending raw handler)).afterAll later := by
        simp only [events, afterRun, afterAll_append, afterAll_cons]
        rfl
      have hothers : afterRun files source others = _ := congrArg Prod.fst hskip
      rw [hevents, hothers]
      exact equal

/-- On linux a client that selects nothing is told of crashes all the same.  On mac it is not, and
without its handler another one is told of them as with it, at the address that is free next to the
one it prefers. -/
theorem optionWords_clear :
    let files := FileSystem.ofWorkingDirectory []
    let ids := IdSource.fromSeed 0
    let attach (p : Platform) (word : UInt32) : Event p :=
      .attachRaw (some []) 0 7 9 word ⟨none, 0x10⟩
    let watch (preferred : Address) : Event .mac :=
      .attachOwned [] 8 0 ⟨true, true⟩ ⟨none, preferred⟩
    let crash (p : Platform) : Event p := .crash (.abort 1 2) .written
    (initial .linux files ids).run [attach .linux 0xFC, crash .linux] =
        (initial .linux files ids).run [attach .linux 3, crash .linux] ∧
      (initial .mac files ids).replyTo (attach .mac 0xFC) = .attached 0x10 ∧
      ((initial .mac files (ids.skip 0)).run [watch 0x11, crash .mac, crash .mac]).2 =
        (((initial .mac files ids).run
          [attach .mac 0xFC, watch 0x10, crash .mac, .detachRaw 0x10, crash .mac]).2.eraseIdx
            0).eraseIdx 2 := by
  intro files ids attach watch crash
  obtain ⟨reworded, idle⟩ := optionWords_afterRun
  have alike : SelectAlike .linux 3 0xFC := fun h => by cases h
  have reply : (initial .mac files ids).replyTo (attach .mac 0xFC) = .attached 0x10 := rfl
  have stays : ((initial .mac files ids).after (attach .mac 0xFC)).Stays 0x10
      [watch 0x10, crash .mac] := by
    apply stays_of_ended?
    intro event hevent
    rcases List.mem_cons.mp hevent with rfl | hcrash
    · exact (Option.some_ne_none _).symm
    · rw [List.mem_singleton.mp hcrash]
      exact (Option.some_ne_none _).symm
  obtain ⟨-, -, -, without⟩ :=
    (idle files ids [] true (attach .mac 0xFC) (.raw rfl)).2 0x10 reply _ stays
  refine ⟨?_, reply, (without [crash .mac]).1⟩
  exact reworded .linux files ids _ _ (.cons (.attachRaw alike) (.cons (.refl _) .nil))

end Application

end CrashDump
