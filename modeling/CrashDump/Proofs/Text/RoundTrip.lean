import CrashDump.Platform
import CrashDump.Proofs.Text.Utf16

/-!
# Text that was written is read again

Encoded text is read as the characters that were written, in UTF-8 and in UTF-16, and so a path
that is text comes back from the wide units it is written in.

* `Utf8.segmentsFrom_within`: a sequence whose bytes lie where they have to is one character.
* `Utf8.segments_encode` and `Utf16.segments_encode`: encoded text has no damaged segment.
* `Utf8.decode_encode` and `Utf16.decode_encode`: reading undoes writing.
* `Codec.utf16_decode_encode` and `Platform.decode_encode`: what that says of paths.
* `Codec.length_utf16_encode_le`: a path takes no more units than bytes.
-/

namespace CrashDump.Text

/-- The number of a character that is made from a number. -/
theorem toNat_ofNat {n : Nat} (valid : n < 0xD800 ∨ 0xDFFF < n ∧ n < 0x110000) :
    (Char.ofNat n).toNat = n := by
  rw [Char.ofNat, dif_pos valid]
  rfl

/-! ## UTF-8 -/

namespace Utf8

theorem toNat_byte {n : Nat} (h : n < 256) : (UInt8.ofNat n).toNat = n :=
  UInt8.toNat_ofNat_of_lt' h

theorem ByteRange.contains_iff (range : ByteRange) (b : UInt8) :
    range.contains b = true ↔
      range.low.toNat ≤ b.toNat ∧ b.toNat ≤ range.high.toNat := by
  unfold ByteRange.contains
  rw [Bool.and_eq_true, decide_eq_true_iff, decide_eq_true_iff, UInt8.le_iff_toNat_le,
    UInt8.le_iff_toNat_le]

theorem ByteRange.contains_byte {range : ByteRange} {n : Nat} (h : n < 256)
    (low : range.low.toNat ≤ n) (high : n ≤ range.high.toNat) :
    range.contains (UInt8.ofNat n) = true := by
  rw [ByteRange.contains_iff, toNat_byte h]
  exact ⟨low, high⟩

/-- The last six bits of a number, marked as a byte that continues a sequence. -/
theorem continuation_contains (n : Nat) :
    continuation.contains (UInt8.ofNat (n % 64 + 128)) = true := by
  have hlow : continuation.low.toNat = 0x80 := rfl
  have hhigh : continuation.high.toNat = 0xBF := rfl
  exact ByteRange.contains_byte (by omega) (by omega) (by omega)

/-- Each of the bytes lies in its range. -/
inductive Fits : List ByteRange → List UInt8 → Prop where
  | nil : Fits [] []
  | cons {range : ByteRange} {b : UInt8} {ranges : List ByteRange} {bytes : List UInt8}
      (first : range.contains b = true) (others : Fits ranges bytes) :
      Fits (range :: ranges) (b :: bytes)

/-- Inside a sequence, the bytes that lie where they have to complete it. -/
theorem segmentsFrom_within {begun : List UInt8} {next : ByteRange} {later : List ByteRange}
    {bytes : List UInt8} (fits : Fits (next :: later) bytes) (rest : List UInt8) :
    segmentsFrom (.within begun next later) (bytes ++ rest) =
      .scalar (character (begun ++ bytes)) :: segmentsFrom .between rest := by
  induction later generalizing begun next bytes with
  | nil =>
    obtain _ | ⟨first, others⟩ := fits
    obtain _ | _ := others
    rw [List.singleton_append, segmentsFrom_cons, step, if_pos first]
    rfl
  | cons range later ih =>
    obtain _ | ⟨first, others⟩ := fits
    rename_i b bytes
    have hbegun : begun ++ b :: bytes = (begun ++ [b]) ++ bytes := by simp
    rw [List.cons_append, segmentsFrom_cons, step, if_pos first, hbegun]
    exact ih others

/-- A leading byte and the bytes after it are one character. -/
theorem segmentsFrom_lead {lead : UInt8} {next : ByteRange} {later : List ByteRange}
    {bytes : List UInt8} (high : 0x80 ≤ lead.toNat) (follow : followers lead = next :: later)
    (fits : Fits (next :: later) bytes) (rest : List UInt8) :
    segmentsFrom .between (lead :: (bytes ++ rest)) =
      .scalar (character (lead :: bytes)) :: segmentsFrom .between rest := by
  have hnot : ¬ lead < 0x80 := by
    rw [UInt8.lt_iff_toNat_lt]
    exact Nat.not_lt.mpr high
  rw [segmentsFrom_cons, step, start, if_neg hnot, follow]
  exact segmentsFrom_within fits rest

/-! Where the second byte of a sequence has to lie, by its leading byte. -/

section

variable {lead : UInt8}

theorem followers_of_two (low : 0xC2 ≤ lead.toNat) (high : lead.toNat < 0xE0) :
    followers lead = [continuation] := by
  have h₁ : ¬ lead < 0xC2 := Nat.not_lt.mpr low
  have h₂ : lead < 0xE0 := high
  rw [followers, if_neg h₁, if_pos h₂]

theorem followers_of_three (low : 0xE0 < lead.toNat) (high : lead.toNat < 0xF0)
    (ne : lead.toNat ≠ 0xED) : followers lead = [continuation, continuation] := by
  have h₁ : ¬ lead < 0xC2 := Nat.not_lt.mpr (show 0xC2 ≤ lead.toNat by omega)
  have h₂ : ¬ lead < 0xE0 := Nat.not_lt.mpr (show 0xE0 ≤ lead.toNat by omega)
  have h₃ : lead ≠ 0xE0 := by
    rintro rfl
    exact absurd low (by decide)
  have h₄ : lead ≠ 0xED := by
    rintro rfl
    exact absurd rfl ne
  have h₅ : lead < 0xF0 := high
  rw [followers, if_neg h₁, if_neg h₂, if_neg h₃, if_neg h₄, if_pos h₅]

theorem followers_of_four (low : 0xF0 < lead.toNat) (high : lead.toNat < 0xF4) :
    followers lead = [continuation, continuation, continuation] := by
  have h₁ : ¬ lead < 0xC2 := Nat.not_lt.mpr (show 0xC2 ≤ lead.toNat by omega)
  have h₂ : ¬ lead < 0xE0 := Nat.not_lt.mpr (show 0xE0 ≤ lead.toNat by omega)
  have h₃ : lead ≠ 0xE0 := by
    rintro rfl
    exact absurd low (by decide)
  have h₄ : lead ≠ 0xED := by
    rintro rfl
    exact absurd low (by decide)
  have h₅ : ¬ lead < 0xF0 := Nat.not_lt.mpr (show 0xF0 ≤ lead.toNat by omega)
  have h₆ : lead ≠ 0xF0 := by
    rintro rfl
    exact absurd low (by decide)
  have h₇ : lead < 0xF4 := high
  rw [followers, if_neg h₁, if_neg h₂, if_neg h₃, if_neg h₄, if_neg h₅, if_neg h₆, if_pos h₇]

end

/-! Sequences of two, three and four bytes. -/

theorem segmentsFrom_two {code : Nat} (low : 0x7F < code) (high : code ≤ 0x7FF)
    (rest : List UInt8) :
    segmentsFrom .between
        (UInt8.ofNat (code / 64 % 32 + 192) :: UInt8.ofNat (code % 64 + 128) :: rest) =
      .scalar (Char.ofNat code) :: segmentsFrom .between rest := by
  have hlead : (UInt8.ofNat (code / 64 % 32 + 192)).toNat = code / 64 % 32 + 192 :=
    toNat_byte (by omega)
  have hsecond : (UInt8.ofNat (code % 64 + 128)).toNat = code % 64 + 128 := toNat_byte (by omega)
  have hfollow : followers (UInt8.ofNat (code / 64 % 32 + 192)) = [continuation] :=
    followers_of_two (by omega) (by omega)
  have hread := segmentsFrom_lead (by omega) hfollow (.cons (continuation_contains code) .nil) rest
  have hcode : (code / 64 % 32 + 192 - 0xC0) * 64 + (code % 64 + 128 - 0x80) = code := by omega
  rw [character, hlead, hsecond, hcode] at hread
  exact hread

theorem segmentsFrom_three {code : Nat} (low : 0x7FF < code) (high : code ≤ 0xFFFF)
    (valid : code < 0xD800 ∨ 0xDFFF < code) (rest : List UInt8) :
    segmentsFrom .between
        (UInt8.ofNat (code / 4096 % 16 + 224) :: UInt8.ofNat (code / 64 % 64 + 128) ::
          UInt8.ofNat (code % 64 + 128) :: rest) =
      .scalar (Char.ofNat code) :: segmentsFrom .between rest := by
  have hlead : (UInt8.ofNat (code / 4096 % 16 + 224)).toNat = code / 4096 % 16 + 224 :=
    toNat_byte (by omega)
  have hsecond : (UInt8.ofNat (code / 64 % 64 + 128)).toNat = code / 64 % 64 + 128 :=
    toNat_byte (by omega)
  have hthird : (UInt8.ofNat (code % 64 + 128)).toNat = code % 64 + 128 := toNat_byte (by omega)
  -- the second byte keeps out what has a shorter sequence, and the surrogates
  have hfollow : ∃ next, followers (UInt8.ofNat (code / 4096 % 16 + 224)) = [next, continuation] ∧
      next.contains (UInt8.ofNat (code / 64 % 64 + 128)) = true := by
    by_cases hfirst : code / 4096 % 16 = 0
    · refine ⟨⟨0xA0, 0xBF⟩, by rw [hfirst]; rfl, ?_⟩
      exact ByteRange.contains_byte (by omega) (show 0xA0 ≤ code / 64 % 64 + 128 by omega)
        (show code / 64 % 64 + 128 ≤ 0xBF by omega)
    · by_cases hlast : code / 4096 % 16 = 13
      · refine ⟨⟨0x80, 0x9F⟩, by rw [hlast]; rfl, ?_⟩
        exact ByteRange.contains_byte (by omega) (show 0x80 ≤ code / 64 % 64 + 128 by omega)
          (show code / 64 % 64 + 128 ≤ 0x9F by omega)
      · exact ⟨continuation, followers_of_three (by omega) (by omega) (by omega),
          continuation_contains _⟩
  obtain ⟨next, hfollow, hnext⟩ := hfollow
  have hread := segmentsFrom_lead (by omega) hfollow
    (.cons hnext (.cons (continuation_contains code) .nil)) rest
  have hcode : (code / 4096 % 16 + 224 - 0xE0) * 4096 + (code / 64 % 64 + 128 - 0x80) * 64 +
      (code % 64 + 128 - 0x80) = code := by omega
  rw [character, hlead, hsecond, hthird, hcode] at hread
  exact hread

theorem segmentsFrom_four {code : Nat} (low : 0xFFFF < code) (high : code < 0x110000)
    (rest : List UInt8) :
    segmentsFrom .between
        (UInt8.ofNat (code / 262144 % 8 + 240) :: UInt8.ofNat (code / 4096 % 64 + 128) ::
          UInt8.ofNat (code / 64 % 64 + 128) :: UInt8.ofNat (code % 64 + 128) :: rest) =
      .scalar (Char.ofNat code) :: segmentsFrom .between rest := by
  have hlead : (UInt8.ofNat (code / 262144 % 8 + 240)).toNat = code / 262144 % 8 + 240 :=
    toNat_byte (by omega)
  have hsecond : (UInt8.ofNat (code / 4096 % 64 + 128)).toNat = code / 4096 % 64 + 128 :=
    toNat_byte (by omega)
  have hthird : (UInt8.ofNat (code / 64 % 64 + 128)).toNat = code / 64 % 64 + 128 :=
    toNat_byte (by omega)
  have hfourth : (UInt8.ofNat (code % 64 + 128)).toNat = code % 64 + 128 := toNat_byte (by omega)
  -- the second byte keeps out what has a shorter sequence, and what is beyond the last character
  have hfollow : ∃ next,
      followers (UInt8.ofNat (code / 262144 % 8 + 240)) = [next, continuation, continuation] ∧
      next.contains (UInt8.ofNat (code / 4096 % 64 + 128)) = true := by
    by_cases hfirst : code / 262144 % 8 = 0
    · refine ⟨⟨0x90, 0xBF⟩, by rw [hfirst]; rfl, ?_⟩
      exact ByteRange.contains_byte (by omega) (show 0x90 ≤ code / 4096 % 64 + 128 by omega)
        (show code / 4096 % 64 + 128 ≤ 0xBF by omega)
    · by_cases hlast : code / 262144 % 8 = 4
      · refine ⟨⟨0x80, 0x8F⟩, by rw [hlast]; rfl, ?_⟩
        exact ByteRange.contains_byte (by omega) (show 0x80 ≤ code / 4096 % 64 + 128 by omega)
          (show code / 4096 % 64 + 128 ≤ 0x8F by omega)
      · exact ⟨continuation, followers_of_four (by omega) (by omega), continuation_contains _⟩
  obtain ⟨next, hfollow, hnext⟩ := hfollow
  have hread := segmentsFrom_lead (by omega) hfollow
    (.cons hnext (.cons (continuation_contains (code / 64))
      (.cons (continuation_contains code) .nil))) rest
  have hcode : (code / 262144 % 8 + 240 - 0xF0) * 262144 + (code / 4096 % 64 + 128 - 0x80) * 4096 +
      (code / 64 % 64 + 128 - 0x80) * 64 + (code % 64 + 128 - 0x80) = code := by omega
  rw [character, hlead, hsecond, hthird, hfourth, hcode] at hread
  exact hread

/-- A character is read from its bytes. -/
theorem segmentsFrom_encodeChar (c : Char) (rest : List UInt8) :
    segmentsFrom .between (String.utf8EncodeChar c ++ rest) =
      .scalar c :: segmentsFrom .between rest := by
  have hvalid : c.toNat < 0xD800 ∨ 0xDFFF < c.toNat ∧ c.toNat < 0x110000 := c.valid
  have hself : Char.ofNat c.toNat = c := Char.ofNat_toNat c
  by_cases h₁ : c.toNat ≤ 0x7F
  · have hencode : String.utf8EncodeChar c = [UInt8.ofNat c.toNat] := if_pos h₁
    have hbyte : (UInt8.ofNat c.toNat).toNat = c.toNat := toNat_byte (by omega)
    have hlow : UInt8.ofNat c.toNat < 0x80 := by
      rw [UInt8.lt_iff_toNat_lt, hbyte]
      exact Nat.lt_succ_of_le h₁
    rw [hencode, List.singleton_append, segmentsFrom_cons, step, start, if_pos hlow, character, hbyte,
      hself]
    rfl
  by_cases h₂ : c.toNat ≤ 0x7FF
  · have hread := segmentsFrom_two (by omega) h₂ rest
    rw [hself] at hread
    have hencode : String.utf8EncodeChar c = _ := (if_neg h₁).trans (if_pos h₂)
    rw [hencode]
    exact hread
  by_cases h₃ : c.toNat ≤ 0xFFFF
  · have hread := segmentsFrom_three (by omega) h₃ (by omega) rest
    rw [hself] at hread
    have hencode : String.utf8EncodeChar c = _ :=
      (if_neg h₁).trans ((if_neg h₂).trans (if_pos h₃))
    rw [hencode]
    exact hread
  · have hread := segmentsFrom_four (show 0xFFFF < c.toNat by omega) (by omega) rest
    rw [hself] at hread
    have hencode : String.utf8EncodeChar c = _ :=
      (if_neg h₁).trans ((if_neg h₂).trans (if_neg h₃))
    rw [hencode]
    exact hread

theorem segments_encode (text : List Char) : segments (encode text) = text.map .scalar := by
  induction text with
  | nil => rfl
  | cons c text ih =>
    rw [encode_cons, segments, segmentsFrom_encodeChar]
    exact congrArg (Segment.scalar c :: ·) ih

theorem decode_encode (text : List Char) : decode (encode text) = text := by
  rw [decode, segments_encode, List.map_map]
  exact List.map_id text

end Utf8

/-! ## UTF-16 -/

namespace Utf16

theorem toNat_unit {n : Nat} (h : n < 0x10000) : n.toUInt16.toNat = n :=
  UInt16.toNat_ofNat_of_lt' h

theorem isHigh_iff (u : UInt16) : isHigh u = true ↔ 0xD800 ≤ u.toNat ∧ u.toNat < 0xDC00 := by
  unfold isHigh
  rw [Bool.and_eq_true, decide_eq_true_iff, decide_eq_true_iff, UInt16.le_iff_toNat_le,
    UInt16.lt_iff_toNat_lt]
  rfl

theorem isLow_iff (u : UInt16) : isLow u = true ↔ 0xDC00 ≤ u.toNat ∧ u.toNat < 0xE000 := by
  unfold isLow
  rw [Bool.and_eq_true, decide_eq_true_iff, decide_eq_true_iff, UInt16.le_iff_toNat_le,
    UInt16.lt_iff_toNat_lt]
  rfl

/-- A character is read from its units. -/
theorem segments_encodeChar (c : Char) (rest : List UInt16) :
    segments (encodeChar c ++ rest) = .scalar c :: segments rest := by
  have hvalid : c.toNat < 0xD800 ∨ 0xDFFF < c.toNat ∧ c.toNat < 0x110000 := c.valid
  have hself : Char.ofNat c.toNat = c := Char.ofNat_toNat c
  unfold encodeChar
  split
  · have hunit : c.toNat.toUInt16.toNat = c.toNat := toNat_unit (by omega)
    have hhigh : isHigh c.toNat.toUInt16 = false := by
      rw [← Bool.not_eq_true, isHigh_iff, hunit]
      omega
    have hlow : isLow c.toNat.toUInt16 = false := by
      rw [← Bool.not_eq_true, isLow_iff, hunit]
      omega
    rw [List.singleton_append, segments_cons_of_not_high hhigh, single, hhigh, hlow, Bool.or_self,
      if_neg Bool.false_ne_true, hunit, hself]
  · have hfirst : (0xD800 + (c.toNat - 0x10000) / 0x400).toUInt16.toNat =
        0xD800 + (c.toNat - 0x10000) / 0x400 := toNat_unit (by omega)
    have hsecond : (0xDC00 + (c.toNat - 0x10000) % 0x400).toUInt16.toNat =
        0xDC00 + (c.toNat - 0x10000) % 0x400 := toNat_unit (by omega)
    have hhigh : isHigh (0xD800 + (c.toNat - 0x10000) / 0x400).toUInt16 = true := by
      rw [isHigh_iff, hfirst]
      omega
    have hlow : isLow (0xDC00 + (c.toNat - 0x10000) % 0x400).toUInt16 = true := by
      rw [isLow_iff, hsecond]
      omega
    have hcode : 0x10000 + (0xD800 + (c.toNat - 0x10000) / 0x400 - 0xD800) * 0x400 +
        (0xDC00 + (c.toNat - 0x10000) % 0x400 - 0xDC00) = c.toNat := by omega
    rw [List.cons_append, List.singleton_append, segments, hhigh, hlow, Bool.and_self, if_pos rfl,
      pair, hfirst, hsecond, hcode, hself]

theorem segments_encode (text : List Char) : segments (encode text) = text.map .scalar := by
  induction text with
  | nil => rfl
  | cons c text ih => rw [encode_cons, segments_encodeChar, ih, List.map_cons]

theorem decode_encode (text : List Char) : decode (encode text) = text := by
  rw [decode, segments_encode, List.map_map]
  exact List.map_id text

end Utf16

end CrashDump.Text

namespace CrashDump.Codec

open Text

/-- A path that is text comes back from its units. -/
theorem utf16_decode_encode {path : Path} (valid : Utf8.IsValid path) :
    utf16.decode (utf16.encode path) = path := by
  obtain ⟨text, rfl⟩ := valid
  show Utf8.encode (Utf16.decode (Utf16.encode (Utf8.decode (Utf8.encode text)))) = _
  rw [Utf8.decode_encode, Utf16.decode_encode]

/-- No character takes more units than bytes. -/
theorem length_encodeChar_le (c : Char) :
    (Utf16.encodeChar c).length ≤ (String.utf8EncodeChar c).length := by
  rw [String.length_utf8EncodeChar]
  unfold Utf16.encodeChar
  split
  · exact c.utf8Size_pos
  · rename_i h
    have hlarge {n : UInt32} (hn : n.toNat < 0x10000) : ¬ c.val ≤ n := by
      have hvalue : c.val.toNat = c.toNat := rfl
      rw [UInt32.le_iff_toNat_le]
      omega
    have hsize : c.utf8Size = 4 := by
      unfold Char.utf8Size
      rw [if_neg (hlarge (by decide)), if_neg (hlarge (by decide)), if_neg (hlarge (by decide))]
    rw [hsize]
    exact (by decide : 2 ≤ 4)

/-- A path that is text has no more units than bytes. -/
theorem length_utf16_encode_le {path : Path} (valid : Utf8.IsValid path) :
    (utf16.encode path).length ≤ path.length := by
  obtain ⟨text, rfl⟩ := valid
  show (Utf16.encode (Utf8.decode (Utf8.encode text))).length ≤ _
  rw [Utf8.decode_encode]
  induction text with
  | nil => exact Nat.le_refl _
  | cons c text ih =>
    rw [Utf16.encode_cons, Utf8.encode_cons, List.length_append, List.length_append]
    exact Nat.add_le_add (length_encodeChar_le c) ih

end CrashDump.Codec

namespace CrashDump

/-- A path comes back from its units, if it is text where they are wide. -/
theorem Platform.decode_encode {p : Platform} {path : Path}
    (text : p = .windows → Text.Utf8.IsValid path) :
    p.codec.decode (p.codec.encode path) = path := by
  cases p with
  | linux => rfl
  | mac => rfl
  | windows => exact Codec.utf16_decode_encode (text rfl)

end CrashDump
