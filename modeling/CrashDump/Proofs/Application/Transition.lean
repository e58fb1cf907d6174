import CrashDump.Proofs.Application.Coherence

/-!
# What a step of an application can do

Whatever the event, a step of an application that agrees with a roster is one of six kinds.  An
attach adds a handler (`attached`) or fails (`refused`), a detach removes one (`detached`), a fault
has a handler write and report a dump (`faulted`), the hook for `SIGABRT` runs without a target
(`abandoned`), and all else touches no handler (`quiet`).

`Transition` says for each kind what the answer is, what becomes of the application and what is
seen.  `transition` is the case analysis over the events, the only one; what a step preserves is
read off the six kinds.  `coherent_afterAll` is the first use of it: the agreement holds in every
run.
-/

namespace CrashDump.Application

variable {p : Platform}

/-! ## What events bring -/

/-- What an attach does to the files before anything else: the typed one makes its directory. -/
def Event.prepare (files : FileSystem) : Event p → Except IoError Unit × FileSystem
  | .attachTyped directory _ _ _ => files.makeDirectories directory
  | _ => (.ok (), files)

/-- What the system refuses to do for an attach. -/
def Event.refusal? : Event p → Option Refusal
  | .attachRaw _ _ _ _ _ surroundings => surroundings.refusal
  | .attachOwned _ _ _ _ surroundings => surroundings.refusal
  | .attachTyped _ _ _ surroundings => surroundings.refusal
  | _ => none

/-- The crash event that is passed with an attach. -/
def Event.passed? : Event p → Option UInt64
  | .attachTyped _ _ event _ => some event
  | _ => none

/-- The event is one that clients bring about at the file system. -/
def Event.isFileOperation : Event p → Bool
  | .makeDirectories _ => true
  | .writeFile _ _ => true
  | .removeDirectories _ => true
  | _ => false

/-- The answer to an attach that failed. -/
def Reply.IsRefusal : Reply → Prop
  | .null => True
  | .attachFailed _ => True
  | .typedFailed _ => True
  | _ => False

/-- How an event shows that the fault it brought was handled, or was not.  A crash and an acted out
one are answered.  For `SIGABRT` it is what becomes of the signal. -/
def Event.Answers (handled : Bool) (reply : Reply) (before after : AbortSignal) : Event p → Prop
  | .abort _ _ _ =>
    after = before.afterDump handled ∧ reply = .aborted .hook (some after.action)
  | _ => after = before ∧ reply = .handled handled

/-- The answer is a plain one, or what became of `SIGABRT`. -/
theorem Event.Answers.reply_cases {event : Event p} {handled : Bool} {reply : Reply}
    {before after : AbortSignal} (answers : event.Answers handled reply before after) :
    (∃ answer, reply = .handled answer) ∨ ∃ first later, reply = .aborted first later := by
  unfold Event.Answers at answers
  split at answers
  · exact .inr ⟨_, _, answers.2⟩
  · exact .inl ⟨_, answers.2⟩

/-- Without a target, the hook for `SIGABRT` reaches no handler. -/
theorem reached?_of_free {app : Application p} {event : Event p} {task thread : UInt32}
    {outcome : DumpOutcome} (event_eq : event = .abort task thread outcome)
    (free : app.machine.abortSignal.target = none) : app.reached? event = none := by
  rw [event_eq, reached?, free, ite_self]

/-! ## The kinds of steps -/

/-- What the step for an event is and does. -/
inductive Transition (app : Application p) (roster : Roster p) (event : Event p) : Prop where
  /-- A handler is attached at a free address. -/
  | attached {address : Address} {attachment : Attachment p} {files : FileSystem}
      {machine : Machine p} {logs : List LogRecord}
      (request : event.attachment? app.machine.ids.next = some attachment)
      (prepared : event.prepare app.machine.files = (.ok (), files))
      (free : roster.get? address = none)
      (fits : requiredUnits attachment.directory.length ≤ p.maxPathUnits)
      (alone : attachment.event? ≠ none → app.typedAttached = false)
      (hooked : Machine.hook { app.machine with files, ids := app.machine.ids.advance }
        event.refusal? address attachment.source = (.ok (), machine))
      (reply : app.replyTo event = .attached address)
      (after : app.after event =
        (app.setMachine { app.machine with files, ids := app.machine.ids.advance }).enrol
          machine address attachment)
      (seen : app.seen event = .contextAllocated address :: logs.map .logged)
  /-- An attach fails. -/
  | refused {files : FileSystem} {ids : IdSource} {memory : Trace p} {logs : List LogRecord}
      (unreached : app.reached? event = none)
      (files_eq : files = app.machine.files ∨ files = (event.prepare app.machine.files).2)
      (ids_eq : ids = app.machine.ids ∨ ids = app.machine.ids.advance)
      (memory_eq : memory = [] ∨ ∃ address, roster.get? address = none ∧
        memory = [.contextAllocated address, .contextFreed address])
      (reply : (app.replyTo event).IsRefusal)
      (after : app.after event = app.setMachine { app.machine with files, ids })
      (seen : app.seen event =
        memory ++ logs.map .logged ++ (event.passed?.map .eventDropped).toList)
  /-- A handler is detached, by the one who holds it. -/
  | detached {handler : Address} {attachment : Attachment p} {registry : Registry}
      (ends : event.ended? = some handler)
      (live : roster.get? handler = some attachment)
      (nodup : registry.handles.Nodup)
      (registered : ∀ other, other ∈ registry.handles ↔
        other ∈ app.host.registry.handles ∧ other ≠ handler)
      (reply : app.replyTo event = .done)
      (after : app.after event = app.dismiss registry handler attachment)
      (seen : app.seen event =
        [.uninstalled handler, .contextFreed handler, .logged .detached] ++
          (attachment.event?.map .eventDropped).toList)
  /-- A fault reaches a handler, which writes and reports a dump. -/
  | faulted {handler : Address} {attachment : Attachment p} {crash : CrashContext}
      {outcome : DumpOutcome} {target : Target p} {abortSignal : AbortSignal}
      (reached : app.reached? event = some handler)
      (live : roster.get? handler = some attachment)
      (brings : event.fault? = some (crash, outcome))
      (serves : target.Serves handler { attachment with id := app.machine.ids.next })
      (answers : event.Answers
        (DumpFile.write p attachment.path crash outcome app.machine.files).1
        (app.replyTo event) app.machine.abortSignal abortSignal)
      (after : app.after event =
        app.settle (DumpFile.write p attachment.path crash outcome app.machine.files).2.1
          handler target abortSignal)
      (seen : app.seen event =
        (DumpFile.write p attachment.path crash outcome app.machine.files).2.2 ++
          attachment.calls handler)
  /-- The hook for `SIGABRT` runs and finds no target. -/
  | abandoned {task thread : UInt32} {outcome : DumpOutcome}
      (event_eq : event = .abort task thread outcome)
      (action : app.machine.abortSignal.action = .hook)
      (target : app.machine.abortSignal.target = none)
      (reply : app.replyTo event = .aborted .hook (some .default))
      (after : app.after event =
        app.setAbortSignal { app.machine.abortSignal with action := .default })
      (seen : app.seen event = [])
  /-- No handler has to do with it. -/
  | quiet {files : FileSystem} {action : AbortAction}
      (unreached : app.reached? event = none)
      (unasked : event.passed? = none)
      (files_eq : files = app.machine.files ∨ event.isFileOperation = true)
      (action_eq : action = app.machine.abortSignal.action ∨ event = .setAbortAction action)
      (unattached : ∀ address, app.replyTo event ≠ .attached address)
      (undetached : app.replyTo event = .done → event.ended? = none)
      (after : app.after event = app.setMachine
        { app.machine with
          files, abortSignal := { app.machine.abortSignal with action } })
      (seen : app.seen event = [])

/-! ## Attaching -/

/-- The three ways an attach can go: the directory is too long, the source cannot be hooked, or the
handler is attached. -/
theorem attach_cases (app : Application p) (address : Address) (directory : List p.PathUnit)
    (context : HandlerContext) (options : InstallOptions) (refusal : Option Refusal) :
    (∃ cause, app.attach address directory context options refusal = (.error cause, app, [])) ∨
    (∃ cause, app.attach address directory context options refusal =
      (.error cause, app.setMachine { app.machine with ids := app.machine.ids.advance },
        [.contextAllocated address, .contextFreed address])) ∨
    (requiredUnits directory.length ≤ p.maxPathUnits ∧ ∃ machine,
      Machine.hook { app.machine with ids := app.machine.ids.advance } refusal address
        (FaultSource.ofOptions? p options) = (.ok (), machine) ∧
      app.attach address directory context options refusal =
        (.ok (),
          { app with
            host :=
              { world :=
                  { machine with
                    targets := machine.targets.insert address
                      (Target.new directory address app.machine.ids.next) }
                contexts := app.host.contexts.insert address context
                handlers := app.host.handlers.insert address
                  ⟨⟨FaultSource.ofOptions? p options, address⟩, none⟩
                registry := app.host.registry } },
          [.contextAllocated address, .logged (.attached directory.length)])) := by
  by_cases hfits : requiredUnits directory.length ≤ p.maxPathUnits
  · right
    have hnot : ¬ requiredUnits directory.length > p.maxPathUnits := Nat.not_lt.mpr hfits
    rcases hhook : Machine.hook { app.machine with ids := app.machine.ids.advance } refusal address
      (FaultSource.ofOptions? p options) with ⟨cause | ⟨⟩, machine⟩
    · left
      refine ⟨cause, ?_⟩
      obtain rfl := Machine.hook_of_error hhook
      simp only [Application.machine] at hhook
      simp only [attach, Host.attach, hnot, if_false, Machine.installer, Machine.install, hhook,
        setMachine, Application.machine]
    · right
      refine ⟨hfits, machine, rfl, ?_⟩
      simp only [Application.machine] at hhook
      simp only [attach, Host.attach, hnot, if_false, Machine.installer, Machine.install, hhook,
        Application.machine]
  · left
    exact ⟨.pathTooLong directory.length (Host.maxDirectory p), by
      simp only [attach, Host.attach, gt_iff_lt, Nat.not_le.mp hfits, if_true]⟩

section

variable {app : Application p} {roster : Roster p} {event : Event p} {reply : Reply}
  {other : Application p} {trace : Trace p}

theorem replyTo_of_step (h : app.step event = (reply, other, trace)) : app.replyTo event = reply :=
  congrArg (·.1) h

theorem after_of_step (h : app.step event = (reply, other, trace)) : app.after event = other :=
  congrArg (·.2.1) h

theorem seen_of_step (h : app.step event = (reply, other, trace)) : app.seen event = trace :=
  congrArg (·.2.2) h

/-- A refusal that leaves the application as it is, but for the files and the ids. -/
theorem Transition.refused_of_step (files : FileSystem) (ids : IdSource) (memory : Trace p)
    (logs : List LogRecord) (reply : Reply)
    (h : app.step event = (reply, app.setMachine { app.machine with files, ids },
      memory ++ logs.map .logged ++ (event.passed?.map .eventDropped).toList))
    (refusal : reply.IsRefusal) (unreached : app.reached? event = none)
    (files_eq : files = app.machine.files ∨ files = (event.prepare app.machine.files).2)
    (ids_eq : ids = app.machine.ids ∨ ids = app.machine.ids.advance)
    (memory_eq : memory = [] ∨ ∃ address, roster.get? address = none ∧
      memory = [.contextAllocated address, .contextFreed address]) :
    Transition app roster event :=
  .refused unreached files_eq ids_eq memory_eq (by rw [replyTo_of_step h]; exact refusal)
    (after_of_step h) (seen_of_step h)

/-- An attach that succeeds. -/
theorem Transition.attached_of_step {address : Address} {attachment : Attachment p}
    {files : FileSystem} {machine : Machine p} (logs : List LogRecord)
    (h : app.step event = (.attached address,
      (app.setMachine { app.machine with files, ids := app.machine.ids.advance }).enrol
        machine address attachment,
      .contextAllocated address :: logs.map .logged))
    (request : event.attachment? app.machine.ids.next = some attachment)
    (prepared : event.prepare app.machine.files = (.ok (), files))
    (free : roster.get? address = none)
    (fits : requiredUnits attachment.directory.length ≤ p.maxPathUnits)
    (alone : attachment.event? ≠ none → app.typedAttached = false)
    (hooked : Machine.hook { app.machine with files, ids := app.machine.ids.advance }
      event.refusal? address attachment.source = (.ok (), machine)) :
    Transition app roster event :=
  .attached request prepared free fits alone hooked (replyTo_of_step h) (after_of_step h)
    (seen_of_step h)

theorem transition_attachOwned (coherent : Coherent app roster) (directory : List p.PathUnit)
    (function : Nat) (userData : UInt64) (options : InstallOptions)
    (surroundings : Surroundings) :
    Transition app roster (.attachOwned directory function userData options surroundings) := by
  have hfree := coherent.get?_nextAddress surroundings.preferred
  rcases attach_cases app (app.host.nextAddress surroundings.preferred) directory
    (.client function userData) options surroundings.refusal with
    ⟨cause, h⟩ | ⟨cause, h⟩ | ⟨hfits, machine, hhook, h⟩
  · refine .refused_of_step app.machine.files app.machine.ids [] [] (.attachFailed cause) ?_
      trivial rfl (.inl rfl) (.inl rfl) (.inl rfl)
    simp only [step, attachOwned, h, Reply.ofAttach]
    rfl
  · refine .refused_of_step app.machine.files app.machine.ids.advance
      [.contextAllocated _, .contextFreed _] [] (.attachFailed cause) ?_
      trivial rfl (.inl rfl) (.inr rfl) (.inr ⟨_, hfree, rfl⟩)
    simp only [step, attachOwned, h, Reply.ofAttach]
    rfl
  · refine .attached_of_step [.attached directory.length] ?_ rfl rfl hfree hfits
      (fun hevent => absurd rfl hevent) hhook
    simp only [step, attachOwned, h, Reply.ofAttach, enrol, Attachment.event?, Attachment.context,
      Attachment.handler, Attachment.source, Attachment.raw, Option.isSome_none, Bool.or_false]
    rfl

/-- A handler that is handed out right after it was attached was attached raw. -/
theorem handOut_insert (host : Host (Machine p) NativeHandler) (address : Address)
    (native : NativeHandler) :
    Host.handOut address address
        { host with handlers := host.handlers.insert address ⟨native, none⟩ } =
      { host with
        handlers := host.handlers.insert address ⟨native, some address⟩
        registry := host.registry.insert address } := by
  simp [Host.handOut, Table.insert_insert_self]

theorem transition_attachRaw (coherent : Coherent app roster)
    (pointer : Option (List p.PathUnit)) (length function : Nat) (userData : UInt64)
    (options : UInt32) (surroundings : Surroundings) :
    Transition app roster
      (.attachRaw pointer length function userData options surroundings) := by
  cases hread : readDirectory pointer length with
  | error cause =>
    refine .refused_of_step app.machine.files app.machine.ids [] [.attachFailed cause] .null ?_
      trivial rfl (.inl rfl) (.inl rfl) (.inl rfl)
    simp only [step, attachRaw, hread, Reply.ofHandle]
    rfl
  | ok directory =>
    have hfree := coherent.get?_nextAddress surroundings.preferred
    rcases attach_cases app (app.host.nextAddress surroundings.preferred) directory
      (.client function userData) (.ofWord options) surroundings.refusal with
      ⟨cause, h⟩ | ⟨cause, h⟩ | ⟨hfits, machine, hhook, h⟩
    · refine .refused_of_step app.machine.files app.machine.ids [] [.attachFailed cause] .null ?_
        trivial rfl (.inl rfl) (.inl rfl) (.inl rfl)
      simp only [step, attachRaw, hread, attachOwned, h, Reply.ofHandle]
      rfl
    · refine .refused_of_step app.machine.files app.machine.ids.advance
        [.contextAllocated _, .contextFreed _] [.attachFailed cause] .null ?_
        trivial rfl (.inl rfl) (.inr rfl) (.inr ⟨_, hfree, rfl⟩)
      simp only [step, attachRaw, hread, attachOwned, h, Reply.ofHandle]
      rfl
    · have request : Event.attachment? app.machine.ids.next
          (.attachRaw pointer length function userData options surroundings) =
          some ⟨directory, .function function userData true, .ofWord options,
            app.machine.ids.next⟩ := by
        simp only [Event.attachment?, hread]
        rfl
      refine .attached_of_step [.attached directory.length] ?_ request rfl hfree hfits
        (fun hevent => absurd rfl hevent) hhook
      have hout := handOut_insert
        { world :=
            { machine with
              targets := machine.targets.insert (app.host.nextAddress surroundings.preferred)
                (Target.new directory (app.host.nextAddress surroundings.preferred)
                  app.machine.ids.next) }
          contexts := app.host.contexts.insert (app.host.nextAddress surroundings.preferred)
            (.client function userData)
          handlers := app.host.handlers
          registry := app.host.registry }
        (app.host.nextAddress surroundings.preferred)
        ⟨FaultSource.ofOptions? p (.ofWord options), app.host.nextAddress surroundings.preferred⟩
      simp only [step, attachRaw, hread, attachOwned, h, Reply.ofHandle, hout, enrol,
        Attachment.event?, Attachment.context, Attachment.handler, Attachment.source, Attachment.raw,
        Option.isSome_none, Bool.or_false]
      rfl

theorem transition_attachTyped (coherent : Coherent app roster) (directory : Path)
    (choice : HandlerChoice) (event : UInt64) (surroundings : Surroundings) :
    Transition app roster (.attachTyped directory choice event surroundings) := by
  have hfree := coherent.get?_nextAddress surroundings.preferred
  cases halone : app.typedAttached with
  | true =>
    refine .refused_of_step app.machine.files app.machine.ids [] [] (.typedFailed .alreadyRegistered)
      ?_ trivial rfl (.inl rfl) (.inl rfl) (.inl rfl)
    simp only [step, attachTyped, halone, if_true, Reply.ofTypedAttach]
    rfl
  | false =>
    obtain ⟨host, events, typedAttached⟩ := app
    cases halone
    cases hmake : FileSystem.makeDirectories host.world.files directory with
    | mk answer files =>
      cases answer with
      | error cause =>
        refine .refused_of_step files host.world.ids [] [] (.typedFailed (.io cause)) ?_ trivial rfl
          (.inr (by simp only [Event.prepare, machine, hmake])) (.inl rfl) (.inl rfl)
        simp only [step, attachTyped, attachCrashEvent, machine, hmake, Reply.ofTypedAttach]
        rfl
      | ok =>
        -- the event lives at the address of its handler, which making the directory leaves free
        have haddress : Host.nextAddress (setFiles ⟨host, events, true⟩ files).host
            surroundings.preferred = host.nextAddress surroundings.preferred := rfl
        rcases attach_cases
          (setFiles ⟨host, events, true⟩ files) (host.nextAddress surroundings.preferred)
          (p.codec.encode directory) (.crashEvent (host.nextAddress surroundings.preferred))
          choice.options surroundings.refusal with
          ⟨cause, h⟩ | ⟨cause, h⟩ | ⟨hfits, hooked, hhook, h⟩
        · refine .refused_of_step files host.world.ids [] [] (.typedFailed (.handler cause)) ?_
            trivial rfl (.inr (by simp only [Event.prepare, machine, hmake])) (.inl rfl) (.inl rfl)
          simp only [step, attachTyped, attachCrashEvent, machine, hmake, haddress, h,
            Bool.false_eq_true, if_false, Reply.ofTypedAttach]
          rfl
        · refine .refused_of_step files host.world.ids.advance
            [.contextAllocated _, .contextFreed _] [] (.typedFailed (.handler cause)) ?_
            trivial rfl (.inr (by simp only [Event.prepare, machine, hmake])) (.inr rfl)
            (.inr ⟨_, hfree, rfl⟩)
          simp only [step, attachTyped, attachCrashEvent, machine, hmake, haddress, h,
            Bool.false_eq_true, if_false, Reply.ofTypedAttach]
          rfl
        · have prepared : Event.prepare host.world.files
              (.attachTyped directory choice event surroundings : Event p) = (.ok (), files) := hmake
          refine .attached_of_step
            [.attached (p.codec.encode directory).length, .writingTo directory] ?_ rfl prepared
            hfree hfits (fun _ => rfl) hhook
          simp only [step, attachTyped, attachCrashEvent, machine, hmake, haddress, h,
            Bool.false_eq_true, if_false, Reply.ofTypedAttach, enrol, Attachment.event?,
            Attachment.context, Attachment.handler, Attachment.source, Attachment.raw]
          rfl

/-! ## Detaching -/

theorem detach_of_get? {address : Address} {attached : Attached NativeHandler}
    (h : app.host.handlers.get? address = some attached) :
    app.detach address =
      ({ app with
          host :=
            { world := app.machine.uninstall attached.native
              contexts := app.host.contexts.erase address
              handlers := app.host.handlers.erase address
              registry := app.host.registry } },
        [.uninstalled address, .contextFreed address, .logged .detached]) := by
  unfold detach Host.detach
  rw [h]
  rfl

/-- No handler has to do with an event that leaves the application as it is. -/
theorem Transition.quiet_of_step {files : FileSystem} {action : AbortAction}
    (h : app.step event = (reply, app.setMachine
      { app.machine with files, abortSignal := { app.machine.abortSignal with action } }, []))
    (unreached : app.reached? event = none) (unasked : event.passed? = none)
    (files_eq : files = app.machine.files ∨ event.isFileOperation = true)
    (action_eq : action = app.machine.abortSignal.action ∨ event = .setAbortAction action)
    (unattached : ∀ address, reply ≠ .attached address)
    (undetached : reply = .done → event.ended? = none) :
    Transition app roster event :=
  .quiet unreached unasked files_eq action_eq (by rw [replyTo_of_step h]; exact unattached)
    (by rw [replyTo_of_step h]; exact undetached) (after_of_step h) (seen_of_step h)

/-- A crash event is not held as a raw handle. -/
theorem event?_of_raw {attachment : Attachment p} (raw : attachment.raw = true) :
    attachment.event? = none := by
  unfold Attachment.raw at raw
  unfold Attachment.event?
  split at raw
  · rfl
  · cases raw

/-- A null handle is ignored. -/
theorem step_detachRaw_zero (app : Application p) : app.step (.detachRaw 0) = (.done, app, []) := by
  simp only [step, detachRaw, if_true]
  rfl

/-- A handle is given back that is not out. -/
theorem step_detachRaw_of_not_isOut (coherent : Coherent app roster) {handle : Address}
    (nonnull : handle ≠ 0) (absent : ¬ roster.IsOut handle) :
    app.step (.detachRaw handle) = (.misuse ⟨handle⟩, app, []) := by
  simp only [step, detachRaw, nonnull, if_false, Host.takeBack,
    coherent.lists.remove_eq_error absent]
  rfl

/-- A handle is given back that is out. -/
theorem step_detachRaw_of_isOut (coherent : Coherent app roster) {handle : Address}
    (nonnull : handle ≠ 0) {attachment : Attachment p}
    (live : roster.get? handle = some attachment) (raw : attachment.raw = true) :
    ∃ registry : Registry,
      (handle :: registry.handles).Perm app.host.registry.handles ∧
      registry.Lists (fun other => other ≠ handle ∧ roster.IsOut other) ∧
      app.step (.detachRaw handle) =
        (.done, app.dismiss registry handle attachment,
          [.uninstalled handle, .contextFreed handle, .logged .detached]) := by
  obtain ⟨registry, hremove, hperm, hlists⟩ := coherent.lists.remove ⟨attachment, live, raw⟩
  have hhandler := coherent.handler_of_isOut live raw
  have hbehind := coherent.oneAddress.handlerBehind? hhandler
  refine ⟨registry, hperm, hlists, ?_⟩
  simp only [step, detachRaw, nonnull, if_false, Host.takeBack, hremove, hbehind, Host.reclaim,
    hhandler, Reply.ofDetach]
  rw [detach_of_get? (Table.get?_insert_self ..)]
  simp only [Table.erase_insert_self, dismiss, event?_of_raw raw, if_true]
  rfl

theorem transition_detachRaw (coherent : Coherent app roster) (handle : Address) :
    Transition app roster (.detachRaw handle) := by
  by_cases hnull : handle = 0
  · subst hnull
    exact .quiet_of_step (step_detachRaw_zero app) rfl rfl (.inl rfl) (.inl rfl) (by simp)
      fun _ => rfl
  by_cases hout : roster.IsOut handle
  · obtain ⟨attachment, live, hraw⟩ := hout
    obtain ⟨registry, -, hlists, hstep⟩ := step_detachRaw_of_isOut coherent hnull live hraw
    refine .detached ?_ live hlists.nodup (coherent.mem_iff_of_lists hlists)
      (replyTo_of_step hstep) (after_of_step hstep) ?_
    · simp only [Event.ended?, hnull, if_false]
    · rw [seen_of_step hstep, event?_of_raw hraw]
      rfl
  · exact .quiet_of_step (step_detachRaw_of_not_isOut coherent hnull hout) rfl rfl (.inl rfl)
      (.inl rfl) (by simp) (by simp)

/-- A handler comes to its end that its client owns. -/
theorem step_drop_of_live (coherent : Coherent app roster) {handler : Address}
    {attachment : Attachment p} (live : roster.get? handler = some attachment)
    (owned : attachment.raw = false) :
    app.step (.drop handler) =
      (.done, app.dismiss app.host.registry handler attachment,
        [.uninstalled handler, .contextFreed handler, .logged .detached] ++
          (attachment.event?.map .eventDropped).toList) := by
  have hhandler := coherent.handlers handler
  have hevents := coherent.events handler
  rw [live] at hhandler hevents
  simp only [step, drop?, hhandler, Option.map_some, Attachment.isSome_raw_handler, owned,
    Bool.false_eq_true, if_false]
  rw [detach_of_get? hhandler]
  simp only [dropEvent]
  cases hevent : attachment.event? with
  | none =>
    simp only [hevents, hevent, Option.bind_some, dismiss, if_true]
    rfl
  | some event =>
    simp only [hevents, hevent, Option.bind_some, dismiss, reduceCtorEq, if_false]
    rfl

theorem transition_drop (coherent : Coherent app roster) (handler : Address) :
    Transition app roster (.drop handler) := by
  have habsent (h : app.step (.drop handler) = (.absent, app, [])) :
      Transition app roster (.drop handler) :=
    .quiet_of_step h rfl rfl (.inl rfl) (.inl rfl) (by simp) (by simp)
  have hhandler := coherent.handlers handler
  cases live : roster.get? handler with
  | none =>
    rw [live] at hhandler
    refine habsent ?_
    simp only [step, drop?, hhandler, Option.map_none]
  | some attachment =>
    rw [live] at hhandler
    cases hheld : attachment.raw with
    | true =>
      refine habsent ?_
      simp only [step, drop?, hhandler, Option.map_some, Attachment.isSome_raw_handler, hheld,
        if_true]
    | false =>
      have hstep := step_drop_of_live coherent live hheld
      exact .detached rfl live coherent.registry_nodup
        (coherent.mem_iff_of_lists (coherent.lists_of_owned live hheld)) (replyTo_of_step hstep)
        (after_of_step hstep) (seen_of_step hstep)

/-! ## Faults -/

theorem follow_append (app : Application p) (first second : Trace p) :
    app.follow (first ++ second) = app.follow first ++ app.follow second := by
  unfold follow
  rw [List.flatMap_append]

/-- Writing a dump tells nobody. -/
theorem follow_write (app : Application p) (path : List p.PathUnit) (crash : CrashContext)
    (outcome : DumpOutcome) (files : FileSystem) :
    app.follow (DumpFile.write p path crash outcome files).2.2 =
      (DumpFile.write p path crash outcome files).2.2 := by
  unfold DumpFile.write
  split
  · rfl
  · cases outcome <;> rfl

/-- A complete path is passed on to the client of its handler. -/
theorem follow_relay (coherent : Coherent app roster) {handler : Address}
    {attachment : Attachment p} (live : roster.get? handler = some attachment)
    (succeeded : Bool) :
    app.follow (app.host.relay (Bridge.deliverComplete handler attachment.path succeeded)) =
      attachment.calls handler := by
  have hcontext := coherent.contexts handler
  have hevents := coherent.events handler
  rw [live] at hcontext hevents
  have hrelay : app.host.relay (Bridge.deliverComplete handler attachment.path succeeded) =
      [.notified handler (attachment.context handler) attachment.path] := by
    simp only [Host.relay, Bridge.deliverComplete, Host.notify, hcontext, Option.map_some,
      Option.map_none, Option.toList]
    rfl
  rw [hrelay]
  unfold Attachment.calls Attachment.context Attachment.event? follow
  cases hclient : attachment.client with
  | function function userData raw => rfl
  | crashEvent event =>
    have hevent : app.events.get? handler = some event := by
      rw [hevents, Option.bind_some, Attachment.event?, hclient]
    simp only [invoke, hevent, List.flatMap_cons, List.flatMap_nil]
    rfl

/-- A fault that reaches the target of an attached handler writes and reports the dump. -/
theorem exists_fault_eq (coherent : Coherent app roster) {handler : Address}
    {attachment : Attachment p} (live : roster.get? handler = some attachment)
    (crash : CrashContext) (outcome : DumpOutcome) :
    ∃ target : Target p,
      target.Serves handler { attachment with id := app.machine.ids.next } ∧
      app.fault handler crash outcome =
        (some (DumpFile.write p attachment.path crash outcome app.machine.files).1,
          app.settle (DumpFile.write p attachment.path crash outcome app.machine.files).2.1
            handler target app.machine.abortSignal,
          (DumpFile.write p attachment.path crash outcome app.machine.files).2.2 ++
            attachment.calls handler) := by
  obtain ⟨target, htarget, hserves⟩ := coherent.serves live
  have hfits := coherent.fits live
  obtain ⟨hdirectory, hcontext, hnames⟩ := hserves
  rw [← hdirectory] at hnames hfits
  refine ⟨target.rename app.machine.ids.next, ⟨hdirectory, hcontext, ?_⟩, ?_⟩
  · show (target.next.rename target.directory app.machine.ids.next).Names attachment.directory _
    rw [← hdirectory]
    exact NextDump.names_rename target.next app.machine.ids.next hfits
  · have hwritten := Target.fault_eq hnames hfits crash outcome app.machine.files
    rw [hdirectory, hcontext] at hwritten
    have hpath : dumpPath attachment.directory attachment.id.units = attachment.path := rfl
    rw [hpath] at hwritten
    -- neither the contexts nor the crash events are touched before the report is passed on
    have htold (machine : Machine p) (succeeded : Bool) :
        (app.setMachine machine).follow ((app.setMachine machine).host.relay
          (Bridge.deliverComplete handler attachment.path succeeded)) =
          attachment.calls handler :=
      follow_relay coherent live succeeded
    unfold fault
    simp only [Machine.fault, htarget, hwritten, follow_append, follow_write, htold]
    rfl

/-- A fault that is handled, or not. -/
theorem Transition.faulted_of_step {handler : Address} {attachment : Attachment p}
    {crash : CrashContext} {outcome : DumpOutcome} {target : Target p} {abortSignal : AbortSignal}
    (h : app.step event = (reply,
      app.settle (DumpFile.write p attachment.path crash outcome app.machine.files).2.1
        handler target abortSignal,
      (DumpFile.write p attachment.path crash outcome app.machine.files).2.2 ++
        attachment.calls handler))
    (reached : app.reached? event = some handler)
    (live : roster.get? handler = some attachment)
    (brings : event.fault? = some (crash, outcome))
    (serves : target.Serves handler { attachment with id := app.machine.ids.next })
    (answers : event.Answers
      (DumpFile.write p attachment.path crash outcome app.machine.files).1
      reply app.machine.abortSignal abortSignal) :
    Transition app roster event :=
  .faulted reached live brings serves (by rw [replyTo_of_step h]; exact answers)
    (after_of_step h) (seen_of_step h)

theorem transition_simulate (coherent : Coherent app roster) (handler : Address)
    (crash : CrashContext) (outcome : DumpOutcome) :
    Transition app roster (.simulate handler crash outcome) := by
  have hhandler := coherent.handlers handler
  by_cases hheld : app.machine.crashHandler = some handler
  · obtain ⟨attachment, live, hsource⟩ := (coherent.crashHandler handler).mp hheld
    obtain ⟨target, hserves, hfault⟩ := exists_fault_eq coherent live crash outcome
    have hfound : app.host.handlers.get? handler =
        some ⟨⟨some .crashHandler, handler⟩, (attachment.handler handler).raw⟩ := by
      rw [hhandler, live, ← hsource]
      rfl
    refine .faulted_of_step ?_ ?_ live rfl hserves ⟨rfl, rfl⟩
    · simp only [step, simulate, hfound, hfault, Reply.ofFault]
    · simp only [reached?, hheld, if_true]
  · have hstep : app.step (.simulate handler crash outcome) = (.absent, app, []) := by
      simp only [step, simulate, hhandler]
      cases live : roster.get? handler with
      | none => rfl
      | some attachment =>
        have hsource : attachment.source ≠ some .crashHandler := fun h =>
          hheld ((coherent.crashHandler handler).mpr ⟨attachment, live, h⟩)
        simp only [Option.map_some, Attachment.handler]
        rcases h : attachment.source with _ | _ | _
        · rfl
        · exact absurd h hsource
        · rfl
    refine .quiet_of_step hstep ?_ rfl (.inl rfl) (.inl rfl) (by simp) (by simp)
    simp only [reached?, hheld, if_false]

theorem transition_crash (coherent : Coherent app roster) (crash : CrashContext)
    (outcome : DumpOutcome) : Transition app roster (.crash crash outcome) := by
  cases hheld : app.machine.crashHandler with
  | none =>
    have hstep : app.step (.crash crash outcome) = (.absent, app, []) := by
      simp only [step, Application.crash, hheld, Reply.ofFault]
    exact .quiet_of_step hstep hheld rfl (.inl rfl) (.inl rfl) (by simp) (by simp)
  | some handler =>
    obtain ⟨attachment, live, -⟩ := (coherent.crashHandler handler).mp hheld
    obtain ⟨target, hserves, hfault⟩ := exists_fault_eq coherent live crash outcome
    refine .faulted_of_step ?_ hheld live rfl hserves ⟨rfl, rfl⟩
    simp only [step, Application.crash, hheld, hfault, Reply.ofFault]

theorem transition_abort (coherent : Coherent app roster) (task thread : UInt32)
    (outcome : DumpOutcome) : Transition app roster (.abort task thread outcome) := by
  by_cases haction : app.machine.abortSignal.action = .hook
  · cases htarget : app.machine.abortSignal.target with
    | none =>
      have hstep : app.step (.abort task thread outcome) =
          (.aborted .hook (some .default),
            app.setAbortSignal { app.machine.abortSignal with action := .default }, []) := by
        simp only [step, abort, abortHook, haction, htarget]
        rfl
      exact .abandoned rfl haction htarget (replyTo_of_step hstep) (after_of_step hstep)
        (seen_of_step hstep)
    | some handler =>
      obtain ⟨attachment, live, -⟩ := coherent.abortTarget htarget
      obtain ⟨target, hserves, hfault⟩ :=
        exists_fault_eq coherent live (.abort task thread) outcome
      refine .faulted_of_step ?_ ?_ live rfl hserves ⟨rfl, rfl⟩
      · simp only [step, abort, abortHook, haction, htarget, hfault, Option.getD_some]
        rfl
      · simp only [reached?, haction, if_true, htarget]
  · have hunreached : app.reached? (.abort task thread outcome) = none := by
      simp only [reached?, haction, if_false]
    have hstep : ∃ after,
        app.step (.abort task thread outcome) =
          (.aborted app.machine.abortSignal.action after, app, []) := by
      cases h : app.machine.abortSignal.action with
      | hook => exact absurd h haction
      | default => exact ⟨none, by simp only [step, abort, h]⟩
      | ignore => exact ⟨some .ignore, by simp only [step, abort, h]⟩
      | client => exact ⟨some .client, by simp only [step, abort, h]⟩
    obtain ⟨after, hstep⟩ := hstep
    exact .quiet_of_step hstep hunreached rfl (.inl rfl) (.inl rfl) (by simp) (by simp)

/-! ## All events -/

/-- Whatever the event, the step is of one of the six kinds. -/
theorem transition (coherent : Coherent app roster) (event : Event p) :
    Transition app roster event := by
  cases event with
  | attachRaw pointer length function userData options surroundings =>
    exact transition_attachRaw coherent pointer length function userData options surroundings
  | attachOwned directory function userData options surroundings =>
    exact transition_attachOwned coherent directory function userData options surroundings
  | attachTyped directory choice event surroundings =>
    exact transition_attachTyped coherent directory choice event surroundings
  | detachRaw handle => exact transition_detachRaw coherent handle
  | drop handler => exact transition_drop coherent handler
  | simulate handler crash outcome => exact transition_simulate coherent handler crash outcome
  | crash crash outcome => exact transition_crash coherent crash outcome
  | abort task thread outcome => exact transition_abort coherent task thread outcome
  | setAbortAction action =>
    have hstep : app.step (.setAbortAction action) =
        (.done, app.setAbortSignal { app.machine.abortSignal with action }, []) := rfl
    exact .quiet_of_step hstep rfl rfl (.inl rfl) (.inr rfl) (by simp) (fun _ => rfl)
  | makeDirectories path =>
    have hstep : app.step (.makeDirectories path) =
        (.succeeded (app.machine.files.makeDirectories path).1.isOk,
          app.setFiles (app.machine.files.makeDirectories path).2, []) := rfl
    exact .quiet_of_step hstep rfl rfl (.inr rfl) (.inl rfl) (by simp) (by simp)
  | writeFile path contents =>
    cases hwrite : app.machine.files.writeFile path contents with
    | ok files =>
      have hstep : app.step (.writeFile path contents) =
          (.succeeded true, app.setFiles files, []) := by
        simp only [step, hwrite]
      exact .quiet_of_step hstep rfl rfl (.inr rfl) (.inl rfl) (by simp) (by simp)
    | error cause =>
      have hstep : app.step (.writeFile path contents) = (.succeeded false, app, []) := by
        simp only [step, hwrite]
      exact .quiet_of_step hstep rfl rfl (.inr rfl) (.inl rfl) (by simp) (by simp)
  | removeDirectories path =>
    have hstep : app.step (.removeDirectories path) =
        (.succeeded (app.machine.files.removeDirectories path).1.isOk,
          app.setFiles (app.machine.files.removeDirectories path).2, []) := rfl
    exact .quiet_of_step hstep rfl rfl (.inr rfl) (.inl rfl) (by simp) (by simp)

end

end CrashDump.Application
