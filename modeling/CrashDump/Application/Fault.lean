import CrashDump.Application.Basic

/-!
# Faults

A fault reaches an application in one of three ways: it is acted out on a handler (`simulate`), it
reaches the crash handler of the process (`crash`), or a thread raises `SIGABRT` (`abort`).  The
target that it reaches writes a dump and reports it.
-/

namespace CrashDump.Application

variable {p : Platform}

/-- A fault reaches the target at an address.  There is no answer if no target lives there. -/
def fault (app : Application p) (target : Address) (crash : CrashContext)
    (outcome : DumpOutcome) : Option Bool × Application p × Trace p :=
  match app.machine.fault target crash outcome with
  | none => (none, app, [.dangling target])
  | some (fault, machine) =>
    let app := app.setMachine machine
    (some fault.report.handled, app, app.follow (fault.dump ++ app.host.relay fault.report))

/-! ## The crash handler of the process -/

/-- The crash that the typed interface acts out: a bad memory access, or an exception without a
code. -/
def typedCrash : Platform → CrashedTask → CrashContext
  | .linux, _ => .signal .segv
  | .mac, crashed => .structured crashed none
  | .windows, crashed => .structured crashed none

/-- A crash is acted out on an attached handler that hooked the crash handler of the process. -/
def simulate (app : Application p) (handler : Address) (crash : CrashContext)
    (outcome : DumpOutcome) : Option Bool × Application p × Trace p :=
  match app.host.handlers.get? handler with
  | some ⟨⟨some .crashHandler, target⟩, _⟩ => app.fault target crash outcome
  | _ => (none, app, [])

/-- A crash reaches the crash handler of the process.  There is no answer if none is set up. -/
def crash (app : Application p) (crash : CrashContext) (outcome : DumpOutcome) :
    Option Bool × Application p × Trace p :=
  match app.machine.crashHandler with
  | none => (none, app, [])
  | some target => app.fault target crash outcome

/-! ## The abort signal -/

/-- The hook for `SIGABRT` runs.  Without a target it lets the signal end the process. -/
def abortHook (app : Application p) (task thread : UInt32) (outcome : DumpOutcome) :
    Application p × Trace p :=
  match app.machine.abortSignal.target with
  | none => (app.setAbortSignal { app.machine.abortSignal with action := .default }, [])
  | some target =>
    let (answer, app, trace) := app.fault target (.abort task thread) outcome
    (app.setAbortSignal (app.machine.abortSignal.afterDump (answer.getD false)), trace)

/-- A thread raises `SIGABRT`.  Unless that ends the process, the answer is the action that is in
place afterwards. -/
def abort (app : Application p) (task thread : UInt32) (outcome : DumpOutcome) :
    Option AbortAction × Application p × Trace p :=
  match app.machine.abortSignal.action with
  | .default => (none, app, [])
  | .ignore => (some .ignore, app, [])
  | .client => (some .client, app, [])
  | .hook =>
    let (app, trace) := app.abortHook task thread outcome
    (some app.machine.abortSignal.action, app, trace)

end CrashDump.Application
