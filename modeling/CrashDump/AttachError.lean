import CrashDump.IoError

/-!
# Why a handler could not be attached

`NativeError` is the refusal of the process's crash handler, `AttachError` the failure of an
attach, and `DumpHandlerError` the failure of an attach through the typed interface.  Each has the
`message` a person is told and, as `sources`, the messages of the errors that caused it, nearest
first.
-/

namespace CrashDump

/-- Why the process's crash handler could not be set up. -/
inductive NativeError where
  | outOfMemory
  | alreadyInstalled
  | io (cause : IoError)
deriving DecidableEq, Repr

namespace NativeError

/-- What a person is told. -/
def message : NativeError → String
  | outOfMemory => "unable to allocate memory"
  | alreadyInstalled => "an exception handler is already installed"
  | io cause => cause.message

/-- The messages of the errors behind this one. -/
def sources : NativeError → List String
  | outOfMemory => []
  | alreadyInstalled => []
  | io cause => [cause.message]

end NativeError

/-- Why a handler could not be attached. -/
inductive AttachError where
  /-- There is no directory at a null pointer. -/
  | nullPath
  /-- The directory leaves no room for the name of a dump. -/
  | pathTooLong (length maximum : Nat)
  /-- The process's crash handler could not be set up. -/
  | install (cause : NativeError)
  /-- The `SIGABRT` handler could not be set up. -/
  | signalHook (cause : IoError)
deriving DecidableEq, Repr

namespace AttachError

/-- What a person is told. -/
def message : AttachError → String
  | nullPath => "the minidump directory pointer is null"
  | pathTooLong length maximum =>
    "the minidump directory is " ++ toString length ++ " code units long, the maximum is " ++
      toString maximum
  | install cause => "unable to attach the native crash handler: " ++ cause.message
  | signalHook cause => "unable to install the abort signal handler: " ++ cause.message

/-- The messages of the errors behind this one. -/
def sources : AttachError → List String
  | nullPath => []
  | pathTooLong _ _ => []
  | install cause => cause.message :: cause.sources
  | signalHook cause => [cause.message]

end AttachError

/-- Why a handler could not be attached through the typed interface. -/
inductive DumpHandlerError where
  /-- Another such handler is attached. -/
  | alreadyRegistered
  /-- The handler could not be attached. -/
  | handler (cause : AttachError)
  /-- The directory could not be made. -/
  | io (cause : IoError)
deriving DecidableEq, Repr

namespace DumpHandlerError

/-- What a person is told. -/
def message : DumpHandlerError → String
  | alreadyRegistered => "Unable to register crash handler, only one is allowed at a time"
  | handler cause => "handler error: " ++ cause.message
  | io cause => "io error: " ++ cause.message

/-- The messages of the errors behind this one. -/
def sources : DumpHandlerError → List String
  | alreadyRegistered => []
  | handler cause => cause.message :: cause.sources
  | io cause => [cause.message]

end DumpHandlerError

end CrashDump
