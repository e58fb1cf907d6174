import CrashDump.Application.Basic

/-!
# Attaching and detaching

An application attaches handlers in three ways.

* Raw (`attachRaw`, `detachRaw`): a directory is given by pointer and length, and a handle comes
  back that may be null.  Failures are logged.  The handler is handed out by the call that attaches
  it and detached by the call that takes it back, and clients are shown its raw handle only.  So one
  address stands for the handler and for its raw handle.
* Owned (`attachOwned`, `drop?`): the handler is a value of the client's, and failures are errors.
* Typed (`attachTyped`, `drop?`): at most one at a time.  The directory is a path, which is made if
  it is missing, and a crash event is given the paths of dumps.

Each answers, and says what the application is afterwards and what was seen.
-/

namespace CrashDump

/-- What the surroundings decide about an attach. -/
structure Surroundings where
  /-- What the system refuses to do, if anything. -/
  refusal : Option Refusal
  /-- The address that the allocator prefers. -/
  preferred : Address
deriving DecidableEq, Repr

namespace Application

variable {p : Platform}

/-! ## Attaching -/

/-- Attaches a handler for a context at a free address. -/
def attach (app : Application p) (address : Address) (directory : List p.PathUnit)
    (context : HandlerContext) (options : InstallOptions) (refusal : Option Refusal) :
    Except AttachError Unit × Application p × Trace p :=
  let (answer, host, trace) :=
    app.host.attach (Machine.installer p) refusal address directory context options
  (answer, { app with host }, trace)

/-- Attaches a handler that the client owns.  The answer is its address. -/
def attachOwned (app : Application p) (directory : List p.PathUnit) (context : HandlerContext)
    (options : InstallOptions) (surroundings : Surroundings) :
    Except AttachError Address × Application p × Trace p :=
  let address := app.host.nextAddress surroundings.preferred
  match app.attach address directory context options surroundings.refusal with
  | (.error cause, app, trace) => (.error cause, app, trace)
  | (.ok (), app, trace) => (.ok address, app, trace)

/-- The units at a pointer.  A length of 0 needs none. -/
def readDirectory (pointer : Option (List p.PathUnit)) (length : Nat) :
    Except AttachError (List p.PathUnit) :=
  if length = 0 then .ok []
  else
    match pointer with
    | none => .error .nullPath
    | some units => .ok (units.take length)

/-- Attaches a handler and hands it out as a raw handle.  The answer is the handle, unless it is
null. -/
def attachRaw (app : Application p) (pointer : Option (List p.PathUnit)) (length : Nat)
    (context : HandlerContext) (options : InstallOptions) (surroundings : Surroundings) :
    Option Address × Application p × Trace p :=
  match readDirectory pointer length with
  | .error cause => (none, app, [.logged (.attachFailed cause)])
  | .ok directory =>
    match app.attachOwned directory context options surroundings with
    | (.error cause, app, trace) => (none, app, trace ++ [.logged (.attachFailed cause)])
    | (.ok address, app, trace) =>
      (some address, { app with host := app.host.handOut address address }, trace)

/-- Makes the directory and attaches a handler for a crash event. -/
def attachCrashEvent (app : Application p) (directory : Path) (choice : HandlerChoice)
    (event : UInt64) (surroundings : Surroundings) :
    Except DumpHandlerError Address × Application p × Trace p :=
  match app.machine.files.makeDirectories directory with
  | (.error cause, files) => (.error (.io cause), app.setFiles files, [])
  | (.ok (), files) =>
    let app := app.setFiles files
    let address := app.host.nextAddress surroundings.preferred
    match app.attach address (p.codec.encode directory) (.crashEvent address) choice.options
        surroundings.refusal with
    | (.error cause, app, trace) => (.error (.handler cause), app, trace)
    | (.ok (), app, trace) =>
      (.ok address, { app with events := app.events.insert address event },
        trace ++ [.logged (.writingTo directory)])

/-- Attaches a handler of the typed interface, which has to be the only one.  The crash event ends
with a failed attach. -/
def attachTyped (app : Application p) (directory : Path) (choice : HandlerChoice)
    (event : UInt64) (surroundings : Surroundings) :
    Except DumpHandlerError Address × Application p × Trace p :=
  if app.typedAttached then
    (.error .alreadyRegistered, app, [.eventDropped event])
  else
    match attachCrashEvent { app with typedAttached := true } directory choice event
        surroundings with
    | (.error cause, app, trace) =>
      (.error cause, { app with typedAttached := false }, trace ++ [.eventDropped event])
    | (.ok address, app, trace) => (.ok address, app, trace)

/-! ## Detaching -/

/-- Detaches a handler. -/
def detach (app : Application p) (address : Address) : Application p × Trace p :=
  let (host, trace) := app.host.detach (Machine.installer p) address
  ({ app with host }, app.follow trace)

/-- Takes a raw handle back and detaches it.  A null handle is ignored. -/
def detachRaw (app : Application p) (handle : Address) :
    Except Misuse Unit × Application p × Trace p :=
  if handle = 0 then (.ok (), app, [])
  else
    match app.host.takeBack handle with
    | .error misuse => (.error misuse, app, [])
    | .ok (none, host) => (.ok (), { app with host }, [])
    | .ok (some handler, host) =>
      let (app, trace) := detach { app with host } handler
      (.ok (), app, trace)

/-- Ends the crash event that belongs to a handler, if there is one. -/
def dropEvent (app : Application p) (address : Address) : Application p × Trace p :=
  match app.events.get? address with
  | none => (app, [])
  | some event =>
    ({ app with events := app.events.erase address, typedAttached := false },
      [.eventDropped event])

/-- Detaches a handler that the client owns, and then ends its crash event.  There is no answer if
the client owns no such handler. -/
def drop? (app : Application p) (address : Address) : Option (Application p × Trace p) :=
  match app.host.handlers.get? address with
  | none => none
  | some attached =>
    if attached.raw.isSome then none
    else
      let (app, detached) := app.detach address
      let (app, dropped) := app.dropEvent address
      some (app, detached ++ dropped)

end Application

end CrashDump
