import CrashDump.AttachError
import CrashDump.InstallOptions
import CrashDump.Address
import CrashDump.Platform

/-!
# Installers

An installer hooks the fault sources of a platform, so that dumps are written to a directory and
reported through a context.  It acts on a world of its own, for instance the state of the process
at the operating system.  While it is being unhooked a handler may still report dumps through its
context: its last words.
-/

namespace CrashDump

/-- How fault sources are hooked and unhooked. -/
structure Installer (p : Platform) (World Native Request : Type) where
  /-- Hooks the fault sources for a directory and the context at an address.  The request is what
  the surroundings decide about it. -/
  install : Request → List p.PathUnit → Address → InstallOptions → World →
    Except AttachError Native × World
  /-- Unhooks them.  The paths are reported through the context on the way. -/
  uninstall : Native → World → List (List p.PathUnit) × World

end CrashDump
