import CrashDump.Text.Segment

/-!
# UTF-16

Encoding a list of characters in 16-bit units, and reading units that may not be UTF-16.

* `encode` writes a character above U+FFFF as a surrogate pair, any other as one unit.
* `segments` reads a high surrogate and the low surrogate after it as one character, and every
  other surrogate as damage of its own.
* `decode` replaces every unpaired surrogate by U+FFFD.
-/

namespace CrashDump.Text.Utf16

/-! ## Writing -/

/-- The one or two units of a character. -/
def encodeChar (c : Char) : List UInt16 :=
  if c.toNat < 0x10000 then [c.toNat.toUInt16]
  else
    [(0xD800 + (c.toNat - 0x10000) / 0x400).toUInt16,
      (0xDC00 + (c.toNat - 0x10000) % 0x400).toUInt16]

/-- The units of a text. -/
def encode (text : List Char) : List UInt16 :=
  text.flatMap encodeChar

@[simp] theorem encode_nil : encode [] = [] := rfl

@[simp] theorem encode_cons (c : Char) (text : List Char) :
    encode (c :: text) = encodeChar c ++ encode text := by
  simp [encode]

@[simp] theorem encode_append (a b : List Char) : encode (a ++ b) = encode a ++ encode b := by
  simp [encode]

/-- The units are the UTF-16 encoding of some text. -/
def IsWellFormed (units : List UInt16) : Prop := ∃ text, units = encode text

/-! ## Reading -/

/-- The unit can begin a surrogate pair. -/
def isHigh (u : UInt16) : Bool := 0xD800 ≤ u && u < 0xDC00

/-- The unit can end a surrogate pair. -/
def isLow (u : UInt16) : Bool := 0xDC00 ≤ u && u < 0xE000

/-- The character of a surrogate pair. -/
def pair (high low : UInt16) : Char :=
  Char.ofNat (0x10000 + (high.toNat - 0xD800) * 0x400 + (low.toNat - 0xDC00))

/-- A unit that is no part of a pair. -/
def single (u : UInt16) : Segment UInt16 :=
  if isHigh u || isLow u then .damaged [u] else .scalar (Char.ofNat u.toNat)

/-- Cuts units into characters and unpaired surrogates. -/
def segments : List UInt16 → List (Segment UInt16)
  | [] => []
  | [u] => [single u]
  | u :: v :: rest =>
    if isHigh u && isLow v then .scalar (pair u v) :: segments rest
    else single u :: segments (v :: rest)

/-- Reads a text, with U+FFFD for every unpaired surrogate. -/
def decode (units : List UInt16) : List Char :=
  (segments units).map Segment.read

@[simp] theorem segments_nil : segments [] = [] := rfl

@[simp] theorem decode_nil : decode [] = [] := rfl

end CrashDump.Text.Utf16
