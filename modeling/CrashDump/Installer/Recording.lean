import CrashDump.Host

/-!
# The recording installer

An installer that hooks nothing.  It keeps what it was given, so that a crash can be acted out by
reporting one.  It refuses, or has last words, on request.
-/

namespace CrashDump

/-- What the recording installer was given. -/
structure Recording (p : Platform) where
  directory : List p.PathUnit
  /-- The address of the context. -/
  context : Address
  options : InstallOptions
  /-- What to report while being unhooked. -/
  lastWords : List (List p.PathUnit)
deriving DecidableEq

namespace Recording

variable {p : Platform}

/-- What the recording installer is asked for. -/
structure Request (p : Platform) where
  /-- How to fail. -/
  refusal : Option AttachError
  /-- What to report while being unhooked. -/
  lastWords : List (List p.PathUnit)
deriving DecidableEq

/-- The installer that records what it is given, and lists the recordings that were unhooked. -/
def installer (p : Platform) :
    Installer p (List (Recording p)) (Recording p) (Request p) where
  install request directory context options unhooked :=
    match request.refusal with
    | some cause => (.error cause, unhooked)
    | none => (.ok ⟨directory, context, options, request.lastWords⟩, unhooked)
  uninstall recording unhooked := (recording.lastWords, unhooked ++ [recording])

/-- What the handler reports of a crash, given the id of the dump. -/
def crash (recording : Recording p) (id : List p.PathUnit) (succeeded : Bool) :
    Bridge.Delivery p.PathUnit :=
  .joined recording.directory id succeeded

end Recording

end CrashDump
