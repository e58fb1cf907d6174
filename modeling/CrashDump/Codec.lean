import CrashDump.Path
import CrashDump.Text.Utf16
import CrashDump.Text.Utf8

/-!
# Paths as code units

A codec turns the bytes of a path into the units a crash handler works with, and the units that a
crash handler delivers back into a path.  `Codec.utf8` keeps the bytes.  `Codec.utf16` goes
through text both ways, so that what is no text is replaced by U+FFFD.
-/

namespace CrashDump

/-- A conversion between paths and code units. -/
structure Codec (U : Type) where
  /-- The units handed to a crash handler for a path. -/
  encode : Path → List U
  /-- The path for units delivered by a crash handler. -/
  decode : List U → Path

namespace Codec

/-- Bytes, unchanged. -/
def utf8 : Codec UInt8 where
  encode path := path
  decode units := units

/-- The 16-bit units of the path's text. -/
def utf16 : Codec UInt16 where
  encode path := Text.Utf16.encode (Text.Utf8.decode path)
  decode units := Text.Utf8.encode (Text.Utf16.decode units)

@[simp] theorem utf8_encode (path : Path) : utf8.encode path = path := rfl

@[simp] theorem utf8_decode (units : List UInt8) : utf8.decode units = units := rfl

end Codec

end CrashDump
