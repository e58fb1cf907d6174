/-!
# What a crash looks like

The crash context that is given to the writer of a dump: on Linux the fatal signal, elsewhere the
names of the task and threads together with the exception.
-/

namespace CrashDump

/-- The fatal signals. -/
inductive FatalSignal where
  | abort
  | bus
  | fpe
  | illegal
  | segv
  | trap
deriving DecidableEq, Repr

/-- An exception, by number. -/
structure ExceptionInfo where
  kind : UInt32
  code : UInt64
  subcode : Option UInt64
deriving DecidableEq, Repr

/-- The names of what crashed. -/
structure CrashedTask where
  task : UInt32
  thread : UInt32
  /-- The thread that handles the crash and is left out of the dump, 0 if there is none. -/
  handlerThread : UInt32
deriving DecidableEq, Repr

/-- What a dump is asked for. -/
inductive CrashContext where
  | signal (signal : FatalSignal)
  | exception (crashed : CrashedTask) (info : Option ExceptionInfo)
deriving DecidableEq, Repr

namespace CrashContext

/-- The context of a process that aborts itself: a software exception, with the code that stands
for an abort.  The crashing thread is in the dump, so there is no handler thread to leave out. -/
def abort (task thread : UInt32) : CrashContext :=
  .exception ⟨task, thread, 0⟩ (some ⟨5, 0x10002, none⟩)

/-- The context of a structured exception with an optional code. -/
def structured (crashed : CrashedTask) (code : Option UInt32) : CrashContext :=
  .exception crashed (code.map fun code => ⟨code, 0, none⟩)

end CrashContext

end CrashDump
