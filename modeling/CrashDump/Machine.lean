import CrashDump.AbortSignal
import CrashDump.Installer
import CrashDump.Target

/-!
# The process at the operating system

A machine is what the handlers of a process share: the files, the ids, the targets in memory, the
one crash handler of the process, and `SIGABRT`.

* `install` and `uninstall` hook and unhook a target.
* `fault` has a target write and report a dump.
* `installer` is the installer that does so.

The crash handler of the process is the system's.  All that is said of it is that it is set up for
one target at a time and may be refused.  In particular, setting it up and taking it down is assumed
to leave the action of `SIGABRT` alone, although it may catch aborts by means of its own: an abort
that it catches reaches it like every other crash.
-/

namespace CrashDump

/-- A fault source of the process. -/
inductive FaultSource where
  /-- The crash handler of the process. -/
  | crashHandler
  /-- The hook for `SIGABRT`. -/
  | abortSignal
deriving DecidableEq, Repr

/-- The fault source that a handler hooks.  The crash handler catches aborts itself, so no handler
hooks both. -/
def FaultSource.ofOptions? : Platform → InstallOptions → Option FaultSource
  | .linux, _ => some .crashHandler
  | .mac, options =>
    if options.exceptionHandler then some .crashHandler
    else if options.signalHandler then some .abortSignal
    else none
  | .windows, _ => some .crashHandler

/-- What the system refuses to do for an attach. -/
inductive Refusal where
  /-- To set up the crash handler of the process. -/
  | crashHandler (cause : NativeError)
  /-- To set the action of `SIGABRT`.  It answers with a code. -/
  | abortAction (code : Int)
deriving DecidableEq, Repr

/-- The refusal to set up the crash handler. -/
def Refusal.crashHandler? : Refusal → Option NativeError
  | crashHandler cause => some cause
  | abortAction _ => none

/-- The refusal to set the action of `SIGABRT`. -/
def Refusal.abortAction? : Refusal → Option Int
  | crashHandler _ => none
  | abortAction code => some code

/-- A handler at the operating system. -/
structure NativeHandler where
  /-- What it hooked. -/
  source : Option FaultSource
  /-- The address of its target. -/
  target : Address
deriving DecidableEq, Repr

/-- The state of a process that its handlers share. -/
structure Machine (p : Platform) where
  files : FileSystem
  ids : IdSource
  /-- The targets in memory. -/
  targets : Table Address (Target p)
  /-- The target of the process's crash handler, if it is set up. -/
  crashHandler : Option Address
  abortSignal : AbortSignal

namespace Machine

variable {p : Platform}

/-- A process without handlers. -/
def initial (p : Platform) (files : FileSystem) (ids : IdSource) : Machine p where
  files := files
  ids := ids
  targets := .empty
  crashHandler := none
  abortSignal := .initial

/-! ## Hooking -/

/-- Hooks a fault source for a target. -/
def hook (machine : Machine p) (refusal : Option Refusal) (target : Address) :
    Option FaultSource → Except AttachError Unit × Machine p
  | none => (.ok (), machine)
  | some .abortSignal =>
    let (answer, abortSignal) :=
      machine.abortSignal.hook (refusal.bind Refusal.abortAction?) target
    (answer.mapError .signalHook, { machine with abortSignal })
  | some .crashHandler =>
    match refusal.bind Refusal.crashHandler?, machine.crashHandler with
    | some cause, _ => (.error (.install cause), machine)
    | none, some _ => (.error (.install .alreadyInstalled), machine)
    | none, none => (.ok (), { machine with crashHandler := some target })

/-- Unhooks a fault source. -/
def unhook (machine : Machine p) : Option FaultSource → Machine p
  | none => machine
  | some .abortSignal => { machine with abortSignal := machine.abortSignal.restore }
  | some .crashHandler => { machine with crashHandler := none }

/-- Makes a target, at the address of its context, and hooks it.  An id is drawn for its first dump
whether or not hooking succeeds. -/
def install (refusal : Option Refusal) (directory : List p.PathUnit) (context : Address)
    (options : InstallOptions) (machine : Machine p) :
    Except AttachError NativeHandler × Machine p :=
  let target := Target.new directory context machine.ids.next
  let machine := { machine with ids := machine.ids.advance }
  let source := FaultSource.ofOptions? p options
  match machine.hook refusal context source with
  | (.error cause, machine) => (.error cause, machine)
  | (.ok (), machine) =>
    (.ok ⟨source, context⟩, { machine with targets := machine.targets.insert context target })

/-- Unhooks a handler and forgets its target. -/
def uninstall (native : NativeHandler) (machine : Machine p) : Machine p :=
  let machine := machine.unhook native.source
  { machine with targets := machine.targets.erase native.target }

/-- The installer of a platform.  Its handlers have no last words. -/
def installer (p : Platform) :
    Installer p (Machine p) NativeHandler (Option Refusal) where
  install := install
  uninstall native machine := ([], machine.uninstall native)

/-! ## Faults -/

/-- Has the target at an address write and report a dump, and names its next one.  There is no
answer if no target lives at the address. -/
def fault (machine : Machine p) (address : Address) (crash : CrashContext)
    (outcome : DumpOutcome) : Option (Fault p × Machine p) :=
  match machine.targets.get? address with
  | none => none
  | some target =>
    let fault := target.fault crash outcome machine.files
    some (fault,
      { machine with
        files := fault.files
        ids := machine.ids.advance
        targets := machine.targets.insert address (target.rename machine.ids.next) })

end Machine

end CrashDump
