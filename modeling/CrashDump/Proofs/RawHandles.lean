import CrashDump.Proofs.Application.SideBySide

/-!
# Raw handles and owned handlers

The raw interface says no more than the owned one.  A raw attach succeeds when the owned attach for
the same units and options does, and otherwise it logs the error that the owned one answers.  From
there on a client that holds a raw handle and one that owns the handler see the same, up to the end
of the handler and beyond.

* `Event.owned`: what an owner asks for instead of a raw attach or detach.
* `step_attachRaw_null`, `step_attachRaw_of_failed` and `step_attachRaw_of_attached`: what a raw
  attach does, in terms of the owned one.
* `twins_attach`: a raw attach and an owned one in its place make twins.
* `detach_holder`: the end of the handler leaves no difference between them.
* `run_holder`: what is seen from the attach on.
* `raw_owned_afterRun`: a raw attach and detach in a run, and an owned one in their place.
-/

namespace CrashDump.Application

variable {p : Platform} {app other : Application p} {handler : Address}

/-! ## One attach -/

/-- What an owner asks for in place of a raw attach or a raw detach.  Nothing is read where the
length is 0. -/
def Event.owned : Event p → Event p
  | .attachRaw pointer length function userData word surroundings =>
    .attachOwned ((pointer.getD []).take length) function userData (.ofWord word) surroundings
  | .detachRaw handle => .drop handle
  | event => event

theorem readDirectory_eq {pointer : Option (List p.PathUnit)} {length : Nat}
    (readable : ¬ (pointer = none ∧ length ≠ 0)) :
    readDirectory pointer length = .ok ((pointer.getD []).take length) := by
  unfold readDirectory
  by_cases hlength : length = 0
  · rw [if_pos hlength, hlength, List.take_zero]
  · rw [if_neg hlength]
    cases pointer with
    | none => exact absurd ⟨rfl, hlength⟩ readable
    | some units => rfl

section

variable {pointer : Option (List p.PathUnit)} {length function : Nat} {userData : UInt64}
  {word : UInt32} {surroundings : Surroundings}

theorem step_attachRaw_null (unreadable : pointer = none ∧ length ≠ 0) :
    app.step (.attachRaw pointer length function userData word surroundings) =
      (.null, app, [.logged (.attachFailed .nullPath)]) := by
  obtain ⟨rfl, hlength⟩ := unreadable
  simp only [step, attachRaw, readDirectory, if_neg hlength]
  rfl

/-- The error that an owner is answered is logged, and turned into null. -/
theorem step_attachRaw_of_failed (readable : ¬ (pointer = none ∧ length ≠ 0)) {cause : AttachError}
    {attach : Event p}
    (attach_eq : attach = .attachRaw pointer length function userData word surroundings)
    (reply : app.replyTo attach.owned = .attachFailed cause) :
    app.step attach =
      (.null, app.after attach.owned,
        app.seen attach.owned ++ [.logged (.attachFailed cause)]) := by
  subst attach_eq
  simp only [Event.owned, replyTo, after, seen, step, attachRaw, readDirectory_eq readable]
    at reply ⊢
  generalize app.attachOwned _ _ _ _ = result at reply ⊢
  obtain ⟨answer, after, trace⟩ := result
  cases answer with
  | error other =>
    cases reply
    rfl
  | ok address => cases reply

/-- The handler that an owner is given is handed out. -/
theorem step_attachRaw_of_attached (readable : ¬ (pointer = none ∧ length ≠ 0))
    {attach : Event p}
    (attach_eq : attach = .attachRaw pointer length function userData word surroundings)
    (reply : app.replyTo attach.owned = .attached handler) :
    app.step attach =
      (.attached handler,
        { app.after attach.owned with
          host := (app.after attach.owned).host.handOut handler handler },
        app.seen attach.owned) := by
  subst attach_eq
  simp only [Event.owned, replyTo, after, seen, step, attachRaw, readDirectory_eq readable]
    at reply ⊢
  generalize app.attachOwned _ _ _ _ = result at reply ⊢
  obtain ⟨answer, after, trace⟩ := result
  cases answer with
  | error other => cases reply
  | ok address =>
    cases reply
    rfl

/-- An owner is answered by an error, or by the address that the allocator hands out. -/
theorem replyTo_attachOwned_cases (app : Application p) (directory : List p.PathUnit)
    (function : Nat) (userData : UInt64) (options : InstallOptions) (surroundings : Surroundings) :
    let reply := app.replyTo (.attachOwned directory function userData options surroundings)
    (∃ cause, reply = .attachFailed cause) ∨
      reply = .attached (app.host.nextAddress surroundings.preferred) := by
  simp only [replyTo, step, attachOwned]
  split
  · exact .inl ⟨_, rfl⟩
  · exact .inr rfl

theorem replyTo_owned_cases (app : Application p) {attach : Event p}
    (attach_eq : attach = .attachRaw pointer length function userData word surroundings) :
    (∃ cause, app.replyTo attach.owned = .attachFailed cause) ∨
      app.replyTo attach.owned = .attached (app.host.nextAddress surroundings.preferred) := by
  subst attach_eq
  exact replyTo_attachOwned_cases ..

theorem eq_nextAddress_of_attachOwned {directory : List p.PathUnit} {options : InstallOptions}
    (reply : app.replyTo (.attachOwned directory function userData options surroundings) =
      .attached handler) : handler = app.host.nextAddress surroundings.preferred := by
  rcases replyTo_attachOwned_cases app directory function userData options surroundings with
    ⟨cause, h⟩ | h
  · rw [h] at reply
    cases reply
  · rw [h] at reply
    exact (Reply.attached.inj reply).symm

theorem ne_zero_of_owned {attach : Event p}
    (attach_eq : attach = .attachRaw pointer length function userData word surroundings)
    (reply : app.replyTo attach.owned = .attached handler) : handler ≠ 0 := by
  subst attach_eq
  rw [eq_nextAddress_of_attachOwned reply]
  exact nextAddress_ne_zero app surroundings.preferred

theorem replyTo_attachRaw_iff (readable : ¬ (pointer = none ∧ length ≠ 0)) {attach : Event p}
    (attach_eq : attach = .attachRaw pointer length function userData word surroundings) :
    app.replyTo attach = .attached handler ↔ app.replyTo attach.owned = .attached handler := by
  rcases replyTo_owned_cases app attach_eq with ⟨cause, h⟩ | h
  · rw [h, replyTo_of_step (step_attachRaw_of_failed readable attach_eq h)]
    exact ⟨Reply.noConfusion, Reply.noConfusion⟩
  · rw [h, replyTo_of_step (step_attachRaw_of_attached readable attach_eq h)]

end

/-! ## The life of a handler -/

/-- An application in which a handler is handed out, and the same one in which it is not. -/
theorem twins_handOut_self {native : NativeHandler}
    (owned : app.host.handlers.get? handler = some ⟨native, none⟩)
    (attached : app.host.contexts.get? handler ≠ none) :
    Twins (.holder handler) { app with host := app.host.handOut handler handler } app := by
  have hout : app.host.handOut handler handler =
      { app.host with
        handlers := app.host.handlers.insert handler ⟨native, some handler⟩
        registry := app.host.registry.insert handler } := by
    simp only [Host.handOut, owned, Option.isSome_none, Bool.false_eq_true, if_false]
  rw [hout]
  exact
    { machine := rfl
      targets := .refl _ _
      contexts := .refl _ _
      handlers := Table.agreesOff_insert _ _ _
      registry := (List.perm_append_singleton handler app.host.registry.handles).symm
      events := rfl
      typedAttached := rfl
      kept := ⟨attached, rfl, rfl, native, Table.get?_insert_self .., owned⟩ }

/-- A raw attach and an owned one in its place make twins. -/
theorem twins_attach {roster : Roster p} (coherent : Coherent app roster)
    {pointer : Option (List p.PathUnit)} {length function : Nat} {userData : UInt64}
    {word : UInt32} {surroundings : Surroundings} (readable : ¬ (pointer = none ∧ length ≠ 0))
    {attach : Event p}
    (attach_eq : attach = .attachRaw pointer length function userData word surroundings)
    (reply : app.replyTo attach.owned = .attached handler) :
    Twins (.holder handler) (app.after attach) (app.after attach.owned) := by
  have coherent' := coherent_after coherent attach.owned
  rw [Roster.after_of_attached reply (by rw [attach_eq]; rfl)] at coherent'
  rw [after_of_step (step_attachRaw_of_attached readable attach_eq reply)]
  have hhandler := coherent'.handlers handler
  have hcontext := coherent'.contexts handler
  rw [Table.get?_insert_self] at hhandler hcontext
  exact twins_handOut_self hhandler (by rw [hcontext]; exact Option.some_ne_none _)

/-- The application without a handler, given what is left of the registry. -/
def forget (app : Application p) (handler : Address) (native : NativeHandler)
    (registry : Registry) : Application p :=
  { app with
    host :=
      { world := app.machine.uninstall native
        contexts := app.host.contexts.erase handler
        handlers := app.host.handlers.erase handler
        registry } }

section

variable {native : NativeHandler}

/-- A raw handle is given back that is out. -/
theorem step_detachRaw_of_out {registry : Registry} (one : app.OneAddress) (nonnull : handler ≠ 0)
    (held : app.host.handlers.get? handler = some ⟨native, some handler⟩)
    (out : app.host.registry.remove handler = .ok registry) :
    app.step (.detachRaw handler) =
      (.done, app.forget handler native registry,
        [.uninstalled handler, .contextFreed handler, .logged .detached]) := by
  simp only [step, detachRaw, nonnull, if_false, Host.takeBack, out, one.handlerBehind? held,
    Host.reclaim, held]
  rw [detach_of_get? (Table.get?_insert_self ..)]
  simp only [Table.erase_insert_self]
  rfl

/-- A handler comes to its end that its owner was not given a crash event with. -/
theorem step_drop_of_owned (held : app.host.handlers.get? handler = some ⟨native, none⟩)
    (eventless : app.events.get? handler = none) :
    app.step (.drop handler) =
      (.done, app.forget handler native app.host.registry,
        [.uninstalled handler, .contextFreed handler, .logged .detached]) := by
  simp only [step, drop?, held, Option.isSome_none, Bool.false_eq_true, if_false]
  rw [detach_of_get? held]
  simp only [dropEvent, eventless]
  rfl

end

/-- When the handle is given back here and the owner's handler comes to its end there, the same is
seen, and no difference is left. -/
theorem detach_holder (twins : Twins (.holder handler) app other) {roster : Roster p}
    (coherent : Coherent app roster) (nonnull : handler ≠ 0) :
    Corresponds .none (app.step (.detachRaw handler)) (other.step (.drop handler)) := by
  obtain ⟨native, happ, hother⟩ := twins.kept.native
  obtain ⟨registry, hremove, lends⟩ := twins.registry.exists_remove
  have hhandler := coherent.handlers handler
  rw [happ] at hhandler
  obtain ⟨attachment, live, hattached⟩ := Option.map_eq_some_iff.mp hhandler.symm
  have hnative : native.target = handler := congrArg (·.native.target) hattached.symm
  have hevent : other.events.get? handler = none := by
    have hraw : attachment.raw = true := by
      rw [← attachment.isSome_raw_handler handler, hattached]
      rfl
    rw [twins.events, coherent.events, live, Option.bind_some]
    exact event?_of_raw hraw
  rw [step_detachRaw_of_out coherent.oneAddress nonnull happ hremove, step_drop_of_owned hother hevent, forget, forget]
  obtain ⟨huninstall, huninstall'⟩ := twins.uninstall_eq native
  rw [huninstall, huninstall', hnative]
  exact
    { answer := rfl
      twins :=
        { machine := rfl
          targets := twins.targets.erase_self
          contexts := twins.contexts.erase_self
          handlers := twins.handlers.erase_self
          registry := lends
          events := twins.events
          typedAttached := twins.typedAttached
          kept := trivial }
      trace := rfl }

/-! ## Whole runs -/

/-- From the attach to the detach, and beyond. -/
theorem run_holder (twins : Twins (.holder handler) app other) {roster : Roster p}
    (coherent : Coherent app roster) (nonnull : handler ≠ 0) {between : List (Event p)}
    (stays : ∀ event ∈ between, event.ended? ≠ some handler) (later : List (Event p)) :
    Twins (.holder handler) (app.afterAll between) (other.afterAll between) ∧
    (other.run (between ++ .drop handler :: later)).2 =
      (app.run (between ++ .detachRaw handler :: later)).2 ∧
    Twins .none (app.afterAll (between ++ .detachRaw handler :: later))
      (other.afterAll (between ++ .drop handler :: later)) := by
  obtain ⟨hbetween, twins'⟩ := twins_run twins coherent (fun _ _ => Difference.noConfusion) between
    fun event hevent another hidden => Option.some.inj hidden ▸ stays event hevent
  have coherent' := coherent_afterAll coherent between
  have corresponds := detach_holder twins' coherent' nonnull
  obtain ⟨hlater, equal⟩ := twins_run corresponds.twins
    (coherent_after coherent' (.detachRaw handler)) (fun _ _ => Difference.noConfusion) later
    fun _ _ _ hidden => by cases hidden
  refine ⟨twins', ?_, ?_⟩
  · rw [run_append, run_append, hbetween]
    exact congrArg ((app.run between).2 ++ ·) (corresponds.run_cons hlater)
  · rw [afterAll_append, afterAll_append]
    exact equal

/-- A raw attach by a null pointer fails, unless the length is 0.  Any other succeeds just when the
owned attach does that reads the units and the options, and logs the error if it fails.  In every
run, a raw attach and the detach of its handle can be replaced by that owned attach and a drop:
every other step has the same answer and is seen the same, and the applications are equal at the
end, but for the order in which raw handles are registered.  Up to the detach they also differ in
that the handle is out. -/
theorem raw_owned_afterRun (files : FileSystem) (ids : IdSource) (earlier : List (Event p))
    (pointer : Option (List p.PathUnit)) (length function : Nat) (userData : UInt64)
    (word : UInt32) (surroundings : Surroundings) :
    let app := afterRun files ids earlier
    let attach : Event p := .attachRaw pointer length function userData word surroundings
    (pointer = none ∧ length ≠ 0 →
      app.step attach = (.null, app, [.logged (.attachFailed .nullPath)])) ∧
    (¬ (pointer = none ∧ length ≠ 0) →
      ((∃ handler, handler ≠ 0 ∧ app.replyTo attach = .attached handler) ↔
        ∃ handler, app.replyTo attach.owned = .attached handler) ∧
      (∀ cause, app.replyTo attach.owned = .attachFailed cause →
        app.step attach = (.null, app.after attach.owned,
          app.seen attach.owned ++ [.logged (.attachFailed cause)])) ∧
      (∀ handler, app.replyTo attach = .attached handler →
        ∀ between, (∀ event ∈ between, event.ended? ≠ some handler) → ∀ later,
          let detach : Event p := .detachRaw handler
          Twins (.holder handler) (afterRun files ids (earlier ++ attach :: between))
            (afterRun files ids (earlier ++ attach.owned :: between)) ∧
          ((initial p files ids).run (earlier ++ attach :: (between ++ detach :: later))).2 =
            ((initial p files ids).run
              (earlier ++ attach.owned :: (between ++ detach.owned :: later))).2 ∧
          Twins .none (afterRun files ids (earlier ++ attach :: (between ++ detach :: later)))
            (afterRun files ids
              (earlier ++ attach.owned :: (between ++ detach.owned :: later))))) ∧
    ∀ cause, (LogRecord.attachFailed cause).level = .error ∧
      (LogRecord.attachFailed cause).message =
        "failed to attach exception handler: " ++ cause.message := by
  intro app attach
  refine ⟨fun unreadable => step_attachRaw_null unreadable, fun readable => ⟨?_, fun cause reply =>
    step_attachRaw_of_failed readable rfl reply, ?_⟩, fun cause => ⟨rfl, rfl⟩⟩
  · constructor
    · rintro ⟨handler, -, reply⟩
      exact ⟨handler, (replyTo_attachRaw_iff readable rfl).mp reply⟩
    · rintro ⟨handler, reply⟩
      exact ⟨handler, ne_zero_of_owned rfl reply, (replyTo_attachRaw_iff readable rfl).mpr reply⟩
  · intro handler reply between stays later detach
    have coherent : Coherent app (.afterRun files ids earlier) :=
      coherent_afterRun files ids earlier
    have reply' := (replyTo_attachRaw_iff readable rfl).mp reply
    have hseen : app.seen attach = app.seen attach.owned :=
      seen_of_step (step_attachRaw_of_attached readable rfl reply')
    obtain ⟨twins, hrun, equal⟩ := run_holder (twins_attach coherent readable rfl reply')
      (coherent_after coherent attach) (ne_zero_of_owned rfl reply') stays later
    refine ⟨?_, ?_, ?_⟩
    · rw [afterRun, afterRun, afterAll_append, afterAll_append]
      exact twins
    · have hsame : (app.run (attach :: (between ++ detach :: later))).2 =
          (app.run (attach.owned :: (between ++ detach.owned :: later))).2 := by
        rw [run_cons, run_cons, reply, reply', hseen]
        exact congrArg (_ :: ·) hrun.symm
      rw [run_append, run_append]
      exact congrArg (((initial p files ids).run earlier).2 ++ ·) hsame
    · rw [afterRun, afterRun, afterAll_append, afterAll_append]
      exact equal

/-- A crash is told to the holder of a handle as it is to an owner, and to neither afterwards. -/
theorem raw_owned_crash :
    let attach : Event .linux := .attachRaw (some [0x64]) 1 7 9 3 ⟨none, 0x10⟩
    let crash : Event .linux := .crash (.signal .segv) .written
    let before := initial .linux (.ofWorkingDirectory []) (.fromSeed 0)
    before.replyTo attach = .attached 0x10 ∧
    (∀ event ∈ [crash], event.ended? ≠ some 0x10) ∧
    (before.run [attach, crash, .detachRaw 0x10, crash]).2 =
      (before.run [attach.owned, crash, .drop 0x10, crash]).2 := by
  intro attach crash before
  have reply : before.replyTo attach = .attached 0x10 := rfl
  have stays : ∀ event ∈ [crash], event.ended? ≠ some 0x10 := by
    intro event hevent
    rw [List.mem_singleton.mp hevent]
    exact (Option.some_ne_none _).symm
  obtain ⟨-, readable, -⟩ := raw_owned_afterRun (p := .linux) (.ofWorkingDirectory [])
    (.fromSeed 0) [] (some [0x64]) 1 7 9 3 ⟨none, 0x10⟩
  have hrun := ((readable (by simp)).2.2 0x10 reply [crash] stays [crash]).2.1
  exact ⟨reply, stays, hrun⟩

end CrashDump.Application
