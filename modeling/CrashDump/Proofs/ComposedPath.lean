import CrashDump.Proofs.DumpName
import CrashDump.Proofs.PathBuffer.Composition
import CrashDump.Proofs.Text.Utf8

/-!
# Reading a composed path

What is composed for a crash is read as a path or shown as text later.  A reader looks ahead for the
end of a character, and the directory may end in the middle of one.  The separator behind it is
ASCII, so that nothing of the directory is taken for a part of what follows.

* `Platform.segments`: how a reader of text cuts the units of a platform.
* `Platform.segments_append_ascii`: ASCII behind any units is read by itself.
* `PathBuffer.decode_composed`: what is read from a composed path.
-/

namespace CrashDump

open Text (Segment)
open Text.Utf16 (IsAscii)

/-- How a reader of text cuts the units of a path. -/
def Platform.segments : (p : Platform) → List p.PathUnit → List (Segment p.PathUnit)
  | linux => Text.Utf8.segments
  | mac => Text.Utf8.segments
  | windows => Text.Utf16.segments

theorem Platform.segments_append_ascii (p : Platform) (front : List p.PathUnit) {b : UInt8}
    {rest : List UInt8} (ascii : IsAscii (b :: rest)) :
    p.segments (front ++ (b :: rest).map CodeUnit.ofByte) =
      p.segments front ++ (b :: rest).map fun c => .scalar (Char.ofNat c.toNat) := by
  have hb := ascii b List.mem_cons_self
  have hnarrow (front : List UInt8) :
      Text.Utf8.segments (front ++ (b :: rest).map (CodeUnit.ofByte : UInt8 → UInt8)) =
        Text.Utf8.segments front ++ (b :: rest).map fun c => .scalar (Char.ofNat c.toNat) := by
    rw [show (b :: rest).map (CodeUnit.ofByte : UInt8 → UInt8) = b :: rest from List.map_id _,
      Text.Utf8.segments_append front hb, Text.Utf8.segments_ascii ascii]
  cases p with
  | linux => exact hnarrow front
  | mac => exact hnarrow front
  | windows =>
    have hlow := (Text.Utf16.not_surrogate_of_ascii hb).2
    have hcut := Text.Utf16.segments_append front hlow (rest.map UInt8.toUInt16)
    rw [← List.map_cons, Text.Utf16.segments_ascii ascii] at hcut
    exact hcut

namespace PathBuffer

/-- From a composed path the directory is read as it would be read alone, and behind it the
separator, the id and the extension, whatever units the directory consists of.  Shown as text, too,
it has the characters and the damage of the directory, and then theirs.  So a directory that came
from a path stands in front unchanged. -/
theorem decode_composed (p : Platform) {capacity : Nat} (directory : List p.PathUnit)
    {id : List UInt8} (ascii : IsAscii id) (buffer after : PathBuffer p.PathUnit capacity)
    (composed : (compose directory (id.map CodeUnit.ofByte)).run buffer = .ok () after) :
    p.codec.decode after.contents =
        p.codec.decode directory ++ Path.separator :: (id ++ extension) ∧
      p.segments after.contents = p.segments directory ++
        (Path.separator :: (id ++ extension)).map (fun b => .scalar (Char.ofNat b.toNat)) ∧
      ∀ path, directory = p.codec.encode path → (p = .windows → Text.Utf8.IsValid path) →
        p.codec.decode after.contents = path ++ Path.separator :: (id ++ extension) := by
  have hcontents := contents_of_composed composed
  have hdecode : p.codec.decode after.contents = p.codec.decode directory ++ dumpSuffix id := by
    rw [hcontents, decode_dumpPath_ascii p directory ascii]
  refine ⟨hdecode, ?_, ?_⟩
  · rw [hcontents, dumpPath_map]
    exact p.segments_append_ascii directory (isAscii_dumpSuffix ascii)
  · rintro path rfl text
    rw [hdecode, Platform.decode_encode text]
    rfl

section

/-- The units of `d`, and half a pair. -/
def brokenOff : List UInt16 := [0x64, 0xD83D]

/-- What composing them with the id `1` leaves in nine cells. -/
def composedBrokenOff : PathBuffer UInt16 9 where
  cells := [0x64, 0xD83D, 0x2F, 0x31, 0x2E, 0x64, 0x6D, 0x70, 0]
  length := 8
  cells_length := rfl

/-- The same with both halves. -/
def composedPair : PathBuffer UInt16 9 where
  cells := [0xD83D, 0xDE00, 0x2F, 0x31, 0x2E, 0x64, 0x6D, 0x70, 0]
  length := 8
  cells_length := rfl

/-- Half a pair does not swallow the separator, and a pair is kept. -/
theorem decode_composed_broken_off :
    Codec.utf16.decode composedBrokenOff.contents =
      [0x64, 0xEF, 0xBF, 0xBD, 0x2F, 0x31, 0x2E, 0x64, 0x6D, 0x70] ∧
    Codec.utf16.decode composedPair.contents =
      [0xF0, 0x9F, 0x98, 0x80, 0x2F, 0x31, 0x2E, 0x64, 0x6D, 0x70] := by
  have ascii : IsAscii [0x31] := by decide
  have text : Text.Utf8.IsValid [0xF0, 0x9F, 0x98, 0x80] := ⟨['😀'], by decide⟩
  obtain ⟨hbroken, -⟩ := decode_composed .windows brokenOff ascii new composedBrokenOff rfl
  obtain ⟨-, -, hpair⟩ := decode_composed .windows [0xD83D, 0xDE00] ascii new composedPair rfl
  exact ⟨hbroken.trans (by decide), hpair [0xF0, 0x9F, 0x98, 0x80] (by decide) fun _ => text⟩

end

end PathBuffer

end CrashDump
