import CrashDump.Host
import CrashDump.Machine

/-!
# Applications with crash handlers

An application has the handlers of its platform attached in it, and the crash events of its typed
handlers in memory.  This module says what an application is and how a crash event comes to be
invoked; attaching, faults and whole runs have modules of their own.
-/

namespace CrashDump

/-- An application with the handlers attached in it. -/
structure Application (p : Platform) where
  host : Host (Machine p) NativeHandler
  /-- The crash events in memory, by the address of the handler they belong to. -/
  events : Table Address UInt64
  /-- A handler of the typed interface is attached. -/
  typedAttached : Bool

namespace Application

variable {p : Platform}

/-- An application without handlers. -/
def initial (p : Platform) (files : FileSystem) (ids : IdSource) : Application p where
  host := .initial (.initial p files ids)
  events := .empty
  typedAttached := false

/-- What the application's handlers share. -/
def machine (app : Application p) : Machine p := app.host.world

/-- The application with another machine. -/
def setMachine (app : Application p) (machine : Machine p) : Application p :=
  { app with host := { app.host with world := machine } }

/-- The application with other files. -/
def setFiles (app : Application p) (files : FileSystem) : Application p :=
  app.setMachine { app.machine with files }

/-- The application with another state of `SIGABRT`. -/
def setAbortSignal (app : Application p) (abortSignal : AbortSignal) : Application p :=
  app.setMachine { app.machine with abortSignal }

/-- The native handler behind a raw handle.  There is none behind a null handle. -/
def nativeHandler? (app : Application p) (handle : Address) : Option NativeHandler :=
  if handle = 0 then none
  else
    (app.host.handlerBehind? handle).bind fun handler =>
      (app.host.handlers.get? handler).map (·.native)

/-! ## Crash events -/

/-- What the crash event at an address does when it is told of a dump. -/
def invoke (app : Application p) (address : Address) (path : List p.PathUnit) : Observation p :=
  match app.events.get? address with
  | some event => .invoked event (p.codec.decode path)
  | none => .dangling address

/-- Adds to a trace what crash events do that are told of a dump. -/
def follow (app : Application p) (trace : Trace p) : Trace p :=
  trace.flatMap fun
    | .notified reference (.crashEvent event) path =>
      [.notified reference (.crashEvent event) path, app.invoke event path]
    | observation => [observation]

end Application

end CrashDump
