import CrashDump.Text.Segment

/-!
# UTF-8

Encoding a list of characters as bytes, and reading bytes that may not be UTF-8.

* `encode` writes each character in its one to four bytes.
* `segments` reads bytes one at a time.  A byte that cannot continue the sequence that was begun
  ends it there, as a damaged segment, and is read again as the start of the next one.  A damaged
  segment is thereby as long as it can be while still the beginning of an encoded character, or a
  single byte.
* `decode` replaces every damaged segment by U+FFFD.
-/

namespace CrashDump.Text.Utf8

/-! ## Writing -/

/-- The bytes of a text. -/
def encode (text : List Char) : List UInt8 :=
  text.flatMap String.utf8EncodeChar

@[simp] theorem encode_nil : encode [] = [] := rfl

@[simp] theorem encode_cons (c : Char) (text : List Char) :
    encode (c :: text) = String.utf8EncodeChar c ++ encode text := by
  simp [encode]

@[simp] theorem encode_append (a b : List Char) : encode (a ++ b) = encode a ++ encode b := by
  simp [encode]

/-- The bytes are the UTF-8 encoding of some text. -/
def IsValid (bytes : List UInt8) : Prop := ∃ text, bytes = encode text

/-! ## Reading -/

/-- The numbers from `low` to `high`. -/
structure ByteRange where
  low : UInt8
  high : UInt8
deriving DecidableEq, Repr

/-- The byte lies in the range. -/
def ByteRange.contains (range : ByteRange) (b : UInt8) : Bool :=
  range.low ≤ b && b ≤ range.high

/-- The bytes that may stand at any place but the first two. -/
def continuation : ByteRange := ⟨0x80, 0xBF⟩

/-- Where the bytes after a leading byte have to lie.  There are none after an ASCII byte, nor
after a byte that leads no sequence. -/
def followers (lead : UInt8) : List ByteRange :=
  if lead < 0xC2 then []
  else if lead < 0xE0 then [continuation]
  else if lead = 0xE0 then [⟨0xA0, 0xBF⟩, continuation]
  else if lead = 0xED then [⟨0x80, 0x9F⟩, continuation]
  else if lead < 0xF0 then [continuation, continuation]
  else if lead = 0xF0 then [⟨0x90, 0xBF⟩, continuation, continuation]
  else if lead < 0xF4 then [continuation, continuation, continuation]
  else if lead = 0xF4 then [⟨0x80, 0x8F⟩, continuation, continuation]
  else []

/-- The character of a complete sequence. -/
def character : List UInt8 → Char
  | [a] => Char.ofNat a.toNat
  | [a, b] => Char.ofNat ((a.toNat - 0xC0) * 64 + (b.toNat - 0x80))
  | [a, b, c] =>
    Char.ofNat ((a.toNat - 0xE0) * 4096 + (b.toNat - 0x80) * 64 + (c.toNat - 0x80))
  | [a, b, c, d] =>
    Char.ofNat ((a.toNat - 0xF0) * 262144 + (b.toNat - 0x80) * 4096 + (c.toNat - 0x80) * 64 +
      (d.toNat - 0x80))
  | _ => replacement

/-- Where a reader stands. -/
inductive State where
  /-- Between two segments. -/
  | between
  /-- Inside a sequence: what was read of it, where the next byte has to lie, and where those
  after it have to. -/
  | within (begun : List UInt8) (next : ByteRange) (later : List ByteRange)
deriving DecidableEq, Repr

/-- Reads the first byte of a segment: the segments it completes and where the reader then
stands. -/
def start (b : UInt8) : List (Segment UInt8) × State :=
  if b < 0x80 then ([.scalar (character [b])], .between)
  else
    match followers b with
    | [] => ([.damaged [b]], .between)
    | next :: later => ([], .within [b] next later)

/-- Reads one byte. -/
def step (state : State) (b : UInt8) : List (Segment UInt8) × State :=
  match state with
  | .between => start b
  | .within begun next later =>
    if next.contains b then
      match later with
      | [] => ([.scalar (character (begun ++ [b]))], .between)
      | next :: later => ([], .within (begun ++ [b]) next later)
    else
      ((.damaged begun) :: (start b).1, (start b).2)

/-- The segments from a state on. -/
def segmentsFrom : State → List UInt8 → List (Segment UInt8)
  | .between, [] => []
  | .within begun _ _, [] => [.damaged begun]
  | state, b :: rest => (step state b).1 ++ segmentsFrom (step state b).2 rest

/-- Cuts bytes into characters and damaged pieces. -/
def segments (bytes : List UInt8) : List (Segment UInt8) :=
  segmentsFrom .between bytes

/-- Reads a text, with U+FFFD for every damaged piece. -/
def decode (bytes : List UInt8) : List Char :=
  (segments bytes).map Segment.read

@[simp] theorem segments_nil : segments [] = [] := rfl

@[simp] theorem decode_nil : decode [] = [] := rfl

theorem segmentsFrom_cons (state : State) (b : UInt8) (rest : List UInt8) :
    segmentsFrom state (b :: rest) = (step state b).1 ++ segmentsFrom (step state b).2 rest := by
  cases state <;> rfl

end CrashDump.Text.Utf8
