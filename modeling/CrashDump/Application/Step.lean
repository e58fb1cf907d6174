import CrashDump.Application.Attach
import CrashDump.Application.Fault

/-!
# Runs of an application

`Event` lists what can happen to an application, and `Reply` what the one who made it happen is
answered.  `step` lets one event happen, and `run` lets events happen one after the other.
-/

namespace CrashDump.Application

/-- What can happen to an application. -/
inductive Event (p : Platform) where
  /-- A raw attach.  The pointer is null, or leads to at least as many units as the length says. -/
  | attachRaw (pointer : Option (List p.PathUnit)) (length : Nat) (function : Nat)
      (userData : UInt64) (options : UInt32) (surroundings : Surroundings)
  /-- An owned attach. -/
  | attachOwned (directory : List p.PathUnit) (function : Nat) (userData : UInt64)
      (options : InstallOptions) (surroundings : Surroundings)
  /-- A typed attach with the crash event of the given tag. -/
  | attachTyped (directory : Path) (choice : HandlerChoice) (event : UInt64)
      (surroundings : Surroundings)
  /-- A raw handle is given back. -/
  | detachRaw (handle : Address)
  /-- A handler that the client owns comes to its end. -/
  | drop (handler : Address)
  /-- A crash is acted out on an attached handler. -/
  | simulate (handler : Address) (crash : CrashContext) (outcome : DumpOutcome)
  /-- A crash reaches the crash handler of the process: a signal or an exception. -/
  | crash (crash : CrashContext) (outcome : DumpOutcome)
  /-- A thread raises `SIGABRT`. -/
  | abort (task thread : UInt32) (outcome : DumpOutcome)
  /-- The client sets the action of `SIGABRT`. -/
  | setAbortAction (action : AbortAction)
  | makeDirectories (path : Path)
  | writeFile (path : Path) (contents : List UInt8)
  | removeDirectories (path : Path)
deriving DecidableEq

/-- What the one who made an event happen is answered. -/
inductive Reply where
  /-- The address of an attached handler, or of its raw handle. -/
  | attached (handler : Address)
  /-- A null handle. -/
  | null
  | attachFailed (cause : AttachError)
  | typedFailed (cause : DumpHandlerError)
  | done
  /-- The application panics. -/
  | misuse (cause : Misuse)
  /-- The crash was handled, or not. -/
  | handled (answer : Bool)
  /-- There is nothing for the event to reach. -/
  | absent
  /-- The action of `SIGABRT` before, and, unless it ends the process, after it was raised. -/
  | aborted (before : AbortAction) (after : Option AbortAction)
  /-- The file operation succeeded, or not. -/
  | succeeded (answer : Bool)
deriving DecidableEq, Repr

namespace Reply

/-- The answer to a raw attach. -/
def ofHandle : Option Address → Reply
  | some handle => .attached handle
  | none => .null

/-- The answer to an owned attach. -/
def ofAttach : Except AttachError Address → Reply
  | .ok address => .attached address
  | .error cause => .attachFailed cause

/-- The answer to a typed attach. -/
def ofTypedAttach : Except DumpHandlerError Address → Reply
  | .ok address => .attached address
  | .error cause => .typedFailed cause

/-- The answer to a raw detach. -/
def ofDetach : Except Misuse Unit → Reply
  | .ok () => .done
  | .error cause => .misuse cause

/-- The answer to a fault. -/
def ofFault : Option Bool → Reply
  | some answer => .handled answer
  | none => .absent

end Reply

variable {p : Platform}

/-- Lets an event happen: the answer, the application afterwards, and what was seen. -/
def step (app : Application p) : Event p → Reply × Application p × Trace p
  | .attachRaw pointer length function userData options surroundings =>
    let (handle, app, trace) :=
      app.attachRaw pointer length (.client function userData) (.ofWord options) surroundings
    (.ofHandle handle, app, trace)
  | .attachOwned directory function userData options surroundings =>
    let (answer, app, trace) :=
      app.attachOwned directory (.client function userData) options surroundings
    (.ofAttach answer, app, trace)
  | .attachTyped directory choice event surroundings =>
    let (answer, app, trace) := app.attachTyped directory choice event surroundings
    (.ofTypedAttach answer, app, trace)
  | .detachRaw handle =>
    let (answer, app, trace) := app.detachRaw handle
    (.ofDetach answer, app, trace)
  | .drop handler =>
    match app.drop? handler with
    | some (app, trace) => (.done, app, trace)
    | none => (.absent, app, [])
  | .simulate handler crash outcome =>
    let (answer, app, trace) := app.simulate handler crash outcome
    (.ofFault answer, app, trace)
  | .crash crash outcome =>
    let (answer, app, trace) := app.crash crash outcome
    (.ofFault answer, app, trace)
  | .abort task thread outcome =>
    let before := app.machine.abortSignal.action
    let (after, app, trace) := app.abort task thread outcome
    (.aborted before after, app, trace)
  | .setAbortAction action =>
    (.done, app.setAbortSignal { app.machine.abortSignal with action }, [])
  | .makeDirectories path =>
    let (answer, files) := app.machine.files.makeDirectories path
    (.succeeded answer.isOk, app.setFiles files, [])
  | .writeFile path contents =>
    match app.machine.files.writeFile path contents with
    | .ok files => (.succeeded true, app.setFiles files, [])
    | .error _ => (.succeeded false, app, [])
  | .removeDirectories path =>
    let (answer, files) := app.machine.files.removeDirectories path
    (.succeeded answer.isOk, app.setFiles files, [])

/-- Lets events happen one after the other: the application afterwards, and the answer and the
trace of each. -/
def run (app : Application p) : List (Event p) → Application p × List (Reply × Trace p)
  | [] => (app, [])
  | event :: rest =>
    let (reply, app, trace) := app.step event
    let (app, others) := app.run rest
    (app, (reply, trace) :: others)

end CrashDump.Application
