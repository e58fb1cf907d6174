/-!
# Segments of possibly damaged text

Reading text in some encoding cuts its units into segments: a segment that encodes one character,
or a damaged segment that encodes none.  A lossy reader puts U+FFFD in place of each damaged one.
-/

namespace CrashDump.Text

/-- One piece of a text as a decoder reads it. -/
inductive Segment (U : Type) where
  /-- Units that encode a character. -/
  | scalar (character : Char)
  /-- Units that encode no character. -/
  | damaged (units : List U)
deriving DecidableEq, Repr

/-- U+FFFD, which stands for what could not be read. -/
def replacement : Char := '\uFFFD'

namespace Segment

variable {U : Type}

/-- The character a lossy reader takes the segment for. -/
def read : Segment U → Char
  | scalar c => c
  | damaged _ => replacement

/-- The units the segment was read from, given how a character is encoded. -/
def source (encode : Char → List U) : Segment U → List U
  | scalar c => encode c
  | damaged units => units

@[simp] theorem read_scalar (c : Char) : (scalar c : Segment U).read = c := rfl

@[simp] theorem read_damaged (units : List U) : (damaged units).read = replacement := rfl

end Segment

end CrashDump.Text
