import CrashDump.Application.Step

/-!
# The handlers that clients know of

A client knows of the handlers that it attached and did not detach yet.  For each it knows what it
asked for, and which id was drawn last for it.  The roster lists them by address.  It is read off
the events of a run and their answers; of the application it uses nothing but the next id of the
source and, for a fault, the cells through which faults find their target.

* `Attachment` is what a client knows of one handler, and `Attachment.calls` how it is told of a
  dump.
* `reached?` is the handler that an event reaches as a fault.
* `Roster.after` is the roster after an event, `Roster.afterAll` the one after a run.
-/

namespace CrashDump

/-! ## Steps and runs -/

namespace Application

variable {p : Platform}

/-- The answer to an event. -/
def replyTo (app : Application p) (event : Event p) : Reply := (app.step event).1

/-- The application after an event. -/
def after (app : Application p) (event : Event p) : Application p := (app.step event).2.1

/-- What is seen of an event. -/
def seen (app : Application p) (event : Event p) : Trace p := (app.step event).2.2

/-- The application after a run. -/
def afterAll (app : Application p) (events : List (Event p)) : Application p := (app.run events).1

@[simp] theorem afterAll_cons (app : Application p) (event : Event p) (rest : List (Event p)) :
    app.afterAll (event :: rest) = (app.after event).afterAll rest := rfl

end Application

/-! ## What a client knows of a handler -/

/-- Whom a client wants to be told of dumps. -/
inductive Client where
  /-- A function, which is given back the word it was registered with.  The client holds a raw
  handle, or owns the handler. -/
  | function (function : Nat) (userData : UInt64) (raw : Bool)
  /-- The crash event with this tag. -/
  | crashEvent (event : UInt64)
deriving DecidableEq, Repr

/-- A handler as its client knows it. -/
structure Attachment (p : Platform) where
  directory : List p.PathUnit
  client : Client
  options : InstallOptions
  /-- The id that was drawn for the next dump. -/
  id : Uuid
deriving DecidableEq

namespace Attachment

variable {p : Platform}

/-- What the handler hooks. -/
def source (attachment : Attachment p) : Option FaultSource :=
  FaultSource.ofOptions? p attachment.options

/-- The tag of the crash event that is told of dumps. -/
def event? (attachment : Attachment p) : Option UInt64 :=
  match attachment.client with
  | .function _ _ _ => none
  | .crashEvent event => some event

/-- The client holds a raw handle. -/
def raw (attachment : Attachment p) : Bool :=
  match attachment.client with
  | .function _ _ raw => raw
  | .crashEvent _ => false

/-- The context of the handler at an address. -/
def context (attachment : Attachment p) (address : Address) : HandlerContext :=
  match attachment.client with
  | .function function userData _ => .client function userData
  | .crashEvent _ => .crashEvent address

/-- The handler at an address. -/
def handler (attachment : Attachment p) (address : Address) : Attached NativeHandler :=
  ⟨⟨attachment.source, address⟩, if attachment.raw then some address else none⟩

@[simp] theorem isSome_raw_handler (attachment : Attachment p) (address : Address) :
    (attachment.handler address).raw.isSome = attachment.raw := by
  unfold handler
  cases attachment.raw <;> rfl

/-- The path of the next dump. -/
def path (attachment : Attachment p) : List p.PathUnit :=
  dumpPath attachment.directory attachment.id.units

/-- How the client of the handler at an address is told of the next dump: by one call with the
path, which a crash event is given decoded. -/
def calls (attachment : Attachment p) (address : Address) : Trace p :=
  .notified address (attachment.context address) attachment.path ::
    (attachment.event?.map fun event => .invoked event (p.codec.decode attachment.path)).toList

end Attachment

/-! ## What events ask for -/

namespace Application

variable {p : Platform}

/-- The handler that an event asks to be attached, given the id of its first dump. -/
def Event.attachment? (id : Uuid) : Event p → Option (Attachment p)
  | .attachRaw pointer length function userData options _ =>
    (readDirectory pointer length).toOption.map fun directory =>
      ⟨directory, .function function userData true, .ofWord options, id⟩
  | .attachOwned directory function userData options _ =>
    some ⟨directory, .function function userData false, options, id⟩
  | .attachTyped directory choice event _ =>
    some ⟨p.codec.encode directory, .crashEvent event, choice.options, id⟩
  | _ => none

/-- The handler that an event asks to be detached.  A null handle is none. -/
def Event.ended? : Event p → Option Address
  | .detachRaw handle => if handle = 0 then none else some handle
  | .drop handler => some handler
  | _ => none

/-- The crash that an event brings, and what the writer of dumps does about it. -/
def Event.fault? : Event p → Option (CrashContext × DumpOutcome)
  | .simulate _ context outcome => some (context, outcome)
  | .crash context outcome => some (context, outcome)
  | .abort task thread outcome => some (.abort task thread, outcome)
  | _ => none

/-- The handler that an event reaches as a fault.  A crash reaches the one that holds the crash
handler of the process.  `SIGABRT` reaches the target of the hook, if it runs the hook. -/
def reached? (app : Application p) : Event p → Option Address
  | .simulate handler _ _ => if app.machine.crashHandler = some handler then some handler else none
  | .crash _ _ => app.machine.crashHandler
  | .abort _ _ _ =>
    if app.machine.abortSignal.action = .hook then app.machine.abortSignal.target else none
  | _ => none

end Application

/-! ## The roster -/

/-- The attached handlers by address, as their clients know them. -/
abbrev Roster (p : Platform) := Table Address (Attachment p)

namespace Roster

variable {p : Platform}

/-- A client holds a raw handle. -/
def IsOut (roster : Roster p) (handle : Address) : Prop :=
  ∃ attachment, roster.get? handle = some attachment ∧ attachment.raw = true

/-- The roster with another id for a handler's next dump. -/
def rename (roster : Roster p) (handler : Address) (id : Uuid) : Roster p :=
  match roster.get? handler with
  | some attachment => roster.insert handler { attachment with id }
  | none => roster

/-- The roster after an event.  A handler is added when its attach is answered by its address, and
goes when its detach is answered.  A fault draws a new id for the handler it reaches. -/
def after (roster : Roster p) (app : Application p) (event : Application.Event p) : Roster p :=
  match app.replyTo event with
  | .attached address =>
    match event.attachment? app.machine.ids.next with
    | some attachment => roster.insert address attachment
    | none => roster
  | .done =>
    match event.ended? with
    | some handler => roster.erase handler
    | none => roster
  | _ =>
    match app.reached? event with
    | some handler => roster.rename handler app.machine.ids.next
    | none => roster

/-- The roster after a run. -/
def afterAll (roster : Roster p) (app : Application p) : List (Application.Event p) → Roster p
  | [] => roster
  | event :: rest => (roster.after app event).afterAll (app.after event) rest

theorem get?_rename (roster : Roster p) (handler other : Address) (id : Uuid) :
    (roster.rename handler id).get? other =
      if other = handler then (roster.get? handler).map ({ · with id := id })
      else roster.get? other := by
  unfold rename
  cases h : roster.get? handler with
  | none =>
    by_cases hother : other = handler
    · subst hother
      simp [h]
    · simp [hother]
  | some attachment =>
    simp [Table.get?_insert]

/-- Nothing but the id changes. -/
theorem exists_get?_rename {roster : Roster p} {handler other : Address} {id : Uuid}
    {P : Attachment p → Prop}
    (h : ∀ attachment : Attachment p, P { attachment with id } ↔ P attachment) :
    (∃ attachment, (roster.rename handler id).get? other = some attachment ∧ P attachment) ↔
      ∃ attachment, roster.get? other = some attachment ∧ P attachment := by
  rw [get?_rename]
  split
  · subst_vars
    cases hget : roster.get? other with
    | none => simp
    | some attachment => simp [h]
  · rfl

end Roster

end CrashDump
