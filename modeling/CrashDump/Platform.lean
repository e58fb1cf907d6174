import CrashDump.CodeUnit
import CrashDump.Codec

/-!
# Platforms

The three families of operating system, with the width of their path units, the codec between
paths and units, and the capacity of every path that is built while a crash is handled.
-/

namespace CrashDump

/-- A family of operating systems. -/
inductive Platform where
  | linux
  | mac
  | windows
deriving DecidableEq, Repr

namespace Platform

/-- The unit of a path that a crash handler works with. -/
abbrev PathUnit : Platform → Type
  | linux => UInt8
  | mac => UInt8
  | windows => UInt16

instance : (p : Platform) → CodeUnit p.PathUnit
  | linux => inferInstanceAs (CodeUnit UInt8)
  | mac => inferInstanceAs (CodeUnit UInt8)
  | windows => inferInstanceAs (CodeUnit UInt16)

instance : (p : Platform) → DecidableEq p.PathUnit
  | linux => inferInstanceAs (DecidableEq UInt8)
  | mac => inferInstanceAs (DecidableEq UInt8)
  | windows => inferInstanceAs (DecidableEq UInt16)

/-- How paths are written in units. -/
def codec : (p : Platform) → Codec p.PathUnit
  | linux => Codec.utf8
  | mac => Codec.utf8
  | windows => Codec.utf16

/-- The capacity, in units, of a path built while a crash is handled. -/
def maxPathUnits : Platform → Nat
  | linux => 4096
  | mac => 4096
  | windows => 1024

end Platform

end CrashDump
