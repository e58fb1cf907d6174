import CrashDump.Proofs.Text.MaximalSubparts
import CrashDump.Proofs.Text.Surrogates

/-!
# Paths in wide units and back

The wide codec goes through text both ways.  Whatever it is given is damaged at most once: the
first conversion mends it, and after that each conversion undoes the other.

* `Codec.decode_encode_wide` and `Codec.encode_decode_wide`: both ways round, in terms of text.
* `Codec.utf16_roundTrip`: what the codec makes of every path and of all units.
-/

namespace CrashDump.Codec

open Text

theorem decode_encode_wide (path : Path) :
    utf16.decode (utf16.encode path) = Utf8.encode (Utf8.decode path) := by
  show Utf8.encode (Utf16.decode (Utf16.encode (Utf8.decode path))) = _
  rw [Utf16.decode_encode]

theorem encode_decode_wide (units : List UInt16) :
    utf16.encode (utf16.decode units) = Utf16.encode (Utf16.decode units) := by
  show Utf16.encode (Utf8.decode (Utf8.encode (Utf16.decode units))) = _
  rw [Utf8.decode_encode]

/-- Every path is written in well-formed units, and what is read from them is the path with U+FFFD
for each maximal subpart that is no text: the path itself just if it is UTF-8.  From all units a
path in UTF-8 is read, and it is written as the units with U+FFFD for each unpaired surrogate: the
units themselves just if there is none.  Converting a third time undoes the second, and paths in
UTF-8 that differ are written in different units. -/
theorem utf16_roundTrip :
    (∀ path : Path,
      Utf16.IsWellFormed (utf16.encode path) ∧
      (∀ mended, Utf8.Mends path mended ↔ mended = utf16.decode (utf16.encode path)) ∧
      (utf16.decode (utf16.encode path) = path ↔ Utf8.IsValid path) ∧
      utf16.encode (utf16.decode (utf16.encode path)) = utf16.encode path) ∧
    (∀ units : List UInt16,
      Utf8.IsValid (utf16.decode units) ∧
      Utf16.Mends units (utf16.encode (utf16.decode units)) ∧
      (utf16.encode (utf16.decode units) = units ↔ Utf16.IsWellFormed units) ∧
      (Utf16.IsWellFormed units ↔ ∀ i, ¬ Utf16.Unpaired units i) ∧
      utf16.decode (utf16.encode (utf16.decode units)) = utf16.decode units) ∧
    ∀ first second : Path, Utf8.IsValid first → Utf8.IsValid second →
      utf16.encode first = utf16.encode second → first = second := by
  refine ⟨fun path => ⟨⟨Utf8.decode path, rfl⟩, fun mended => ?_, ?_, ?_⟩,
    fun units => ⟨⟨Utf16.decode units, rfl⟩, ?_, ?_, Utf16.isWellFormed_iff, ?_⟩, ?_⟩
  · rw [decode_encode_wide, Utf8.mends_iff]
  · rw [decode_encode_wide, Utf8.encode_decode_eq_iff]
  · rw [encode_decode_wide]
    show Utf16.encode (Utf16.decode (Utf16.encode (Utf8.decode path))) = _
    rw [Utf16.decode_encode]
    rfl
  · rw [encode_decode_wide]
    exact Utf16.mends_encode_decode units
  · rw [encode_decode_wide, Utf16.isWellFormed_iff, Utf16.encode_decode_eq_iff]
  · rw [decode_encode_wide]
    show Utf8.encode (Utf8.decode (Utf8.encode (Utf16.decode units))) = _
    rw [Utf8.decode_encode]
    rfl
  · intro first second hfirst hsecond h
    rw [← utf16_decode_encode hfirst, ← utf16_decode_encode hsecond, h]

/-- One character is written twice, in its two bytes and cut short. -/
theorem utf16_roundTrip_cut_short :
    Utf8.IsValid [0x2F, 0xC3, 0xA9] ∧ Utf8.IsValid [0x2F, 0x65] ∧
    utf16.encode [0x2F, 0xC3, 0xA9] ≠ utf16.encode [0x2F, 0x65] ∧
    utf16.decode (utf16.encode [0x2F, 0xC3]) ≠ [0x2F, 0xC3] := by
  have haccented : Utf8.IsValid [0x2F, 0xC3, 0xA9] := ⟨['/', 'é'], by decide⟩
  have hplain : Utf8.IsValid [0x2F, 0x65] := ⟨['/', 'e'], by decide⟩
  refine ⟨haccented, hplain, fun h => ?_, ?_⟩
  · exact absurd (utf16_roundTrip.2.2 _ _ haccented hplain h) (by decide)
  · decide

/-- A character cut short before another one, a character too many, and half a pair. -/
example :
    utf16.decode (utf16.encode [0xE2, 0x82, 0x61, 0x80]) =
      [0xEF, 0xBF, 0xBD, 0x61, 0xEF, 0xBF, 0xBD] ∧
    utf16.encode (utf16.decode [0xDC00, 0xD83D, 0xD83D, 0xDE00]) =
      [0xFFFD, 0xFFFD, 0xD83D, 0xDE00] := by
  decide

end CrashDump.Codec
