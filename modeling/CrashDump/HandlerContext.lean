import CrashDump.Address

/-!
# Contexts of handlers

The context of a handler says whom a crash is reported to.  Native handlers know it by address
only.
-/

namespace CrashDump

/-- Whom a crash is reported to. -/
inductive HandlerContext where
  /-- A function of the client, which is given back the word it was registered with. -/
  | client (function : Nat) (userData : UInt64)
  /-- The crash event of the typed interface at an address. -/
  | crashEvent (event : Address)
deriving DecidableEq, Repr

end CrashDump
