import CrashDump.Application.Step

/-!
# A program that crashes

A small program that attaches a crash handler for its working directory, through the typed or the
raw interface, and crashes if it is asked to.  It says where the dump was written and removes it
again.
-/

namespace CrashDump.Demo

/-- The interface that the program uses. -/
inductive Interface where
  | typed
  | raw
deriving DecidableEq, Repr

/-- How a program ends. -/
inductive Ending where
  | exited (code : Nat)
  | killed (signal : Nat)
deriving DecidableEq, Repr

/-- What is left of a program when it has ended. -/
structure Outcome where
  /-- The lines it printed. -/
  output : List String
  /-- The notices of its handler. -/
  notices : List Notice
  ending : Ending
  files : FileSystem

/-- The number of the signal for a bad memory access. -/
def segmentationFault : Nat := 11

/-- The exit code of a program that gives up. -/
def failure : Nat := 101

/-- The argument that makes the program crash. -/
def crashArgument : String := "--crash"

/-- A path as it is shown to people. -/
def display (path : Path) : String := String.ofList (Text.Utf8.decode path)

/-- The path of a place. -/
def pathOf (location : Location) : Path :=
  Path.ofComponents (.root :: location.map .entry)

/-- What the program calls a dump. -/
def Interface.dumpName : Interface → String
  | .typed => "Minidump"
  | .raw => "Crashdump"

/-- The event by which the program attaches its handler. -/
def attachEvent (interface : Interface) (directory : Path) : Application.Event .linux :=
  match interface with
  | .typed => .attachTyped directory .bothHandlers 0 ⟨none, 1⟩
  | .raw =>
    .attachRaw (some directory) directory.length 0 0 HandlerChoice.bothHandlers.word ⟨none, 1⟩

/-- The event by which the program detaches its handler. -/
def detachEvent (interface : Interface) (handler : Address) : Application.Event .linux :=
  match interface with
  | .typed => .drop handler
  | .raw => .detachRaw handler

/-- The paths that the program is told of. -/
def delivered (trace : Trace .linux) : List Path :=
  trace.filterMap fun
    | .notified _ (.client _ _) path => some (Platform.linux.codec.decode path)
    | .invoked _ path => some path
    | _ => none

/-- The notices in a trace. -/
def notices (trace : Trace .linux) : List Notice :=
  trace.filterMap fun
    | .printed notice => some notice
    | _ => none

/-- What the program does when it is told of a dump. -/
def onCrash (interface : Interface) (files : FileSystem) (path : Path) :
    List String × FileSystem :=
  let written := interface.dumpName ++ " written to " ++ display path
  match files.removeFile path with
  | .ok files => ([written, "Removed " ++ display path], files)
  | .error cause => ([written, "Failed to remove " ++ display path ++ ": " ++ cause.message], files)

/-- What the program does when it is told of several dumps. -/
def onCrashes (interface : Interface) (files : FileSystem) :
    List Path → List String × FileSystem
  | [] => ([], files)
  | path :: rest =>
    let (lines, files) := onCrash interface files path
    let (more, files) := onCrashes interface files rest
    (lines ++ more, files)

/-- Runs the program with the given arguments. -/
def run (interface : Interface) (arguments : List String) (app : Application .linux) : Outcome :=
  let directory := pathOf app.machine.files.workingDirectory
  match app.step (attachEvent interface directory) with
  | (.attached handler, app, _) =>
    if crashArgument ∈ arguments then
      let (_, app, trace) := app.step (.crash (.signal .segv) .written)
      let (output, files) := onCrashes interface app.machine.files (delivered trace)
      ⟨output, notices trace, .killed segmentationFault, files⟩
    else
      let (_, app, trace) := app.step (detachEvent interface handler)
      ⟨[], notices trace, .exited 0, app.machine.files⟩
  | (_, app, trace) => ⟨[], notices trace, .exited failure, app.machine.files⟩

end CrashDump.Demo
