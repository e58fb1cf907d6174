import CrashDump.AttachError
import CrashDump.Bridge
import CrashDump.CrashContext
import CrashDump.FileSystem.Operations
import CrashDump.HandlerContext

/-!
# What can be seen of a process

Besides its answer, a step of a process leaves a trace: the memory it takes and gives back, the
files it opens, what it asks of the writer of dumps, whom it tells, and what it logs and prints.
A trace lists these observations in the order they happened.
-/

namespace CrashDump

/-- How grave a log record is. -/
inductive LogLevel where
  | error
  | debug
deriving DecidableEq, Repr

/-- The name of a level. -/
def LogLevel.text : LogLevel → String
  | error => "error"
  | debug => "debug"

/-- What is logged. -/
inductive LogRecord where
  /-- A handler was attached to a directory of so many units. -/
  | attached (units : Nat)
  | detached
  /-- The directory that the typed interface writes to. -/
  | writingTo (directory : Path)
  /-- A raw handle could not be made. -/
  | attachFailed (cause : AttachError)
deriving DecidableEq, Repr

namespace LogRecord

/-- How grave a record is. -/
def level : LogRecord → LogLevel
  | attachFailed _ => .error
  | attached _ => .debug
  | detached => .debug
  | writingTo _ => .debug

/-- The text of a record.  What is no text in a path is shown as U+FFFD. -/
def message : LogRecord → String
  | attached units => "attached crash handler (" ++ toString units ++ " path units)"
  | detached => "detached crash handler"
  | writingTo directory =>
    "writing minidumps to '" ++ String.ofList (Text.Utf8.decode directory) ++ "'"
  | attachFailed cause => "failed to attach exception handler: " ++ cause.message

end LogRecord

/-- One thing that can be seen. -/
inductive Observation (p : Platform) where
  /-- Memory was taken for a context. -/
  | contextAllocated (context : Address)
  /-- The memory of a context was given back. -/
  | contextFreed (context : Address)
  /-- A native handler was unhooked. -/
  | uninstalled (context : Address)
  /-- The context at an address was told of a dump. -/
  | notified (reference : Address) (context : HandlerContext) (path : List p.PathUnit)
  /-- The crash event with this tag was given the path of a dump. -/
  | invoked (event : UInt64) (path : Path)
  /-- Memory was used that nothing lives in. -/
  | dangling (address : Address)
  /-- The crash event with this tag came to its end. -/
  | eventDropped (event : UInt64)
  /-- The file of a dump was opened. -/
  | opened (file : Location)
  /-- The writer of dumps was asked for one. -/
  | asked (crash : CrashContext)
  | logged (record : LogRecord)
  | printed (notice : Notice)
deriving DecidableEq

/-- What was seen, in order. -/
abbrev Trace (p : Platform) := List (Observation p)

end CrashDump
