import CrashDump.Codec

/-!
# Reading UTF-16 piece by piece

A reader of UTF-16 may be stopped and started anew in front of any unit that is no low surrogate.
ASCII is read as it stands.
-/

namespace CrashDump.Text.Utf16

/-! ## Cutting -/

theorem segments_cons_of_not_high {u : UInt16} (h : isHigh u = false) (rest : List UInt16) :
    segments (u :: rest) = single u :: segments rest := by
  cases rest with
  | nil => rfl
  | cons v rest =>
    rw [segments, h, Bool.false_and, if_neg Bool.false_ne_true]

theorem segments_cons_of_not_low {u v : UInt16} (h : isLow v = false) (rest : List UInt16) :
    segments (u :: v :: rest) = single u :: segments (v :: rest) := by
  rw [segments, h, Bool.and_false, if_neg Bool.false_ne_true]

/-- No pair is cut in two in front of a unit that ends none. -/
theorem segments_append (front : List UInt16) {u : UInt16} (h : isLow u = false)
    (rest : List UInt16) :
    segments (front ++ u :: rest) = segments front ++ segments (u :: rest) := by
  fun_induction segments front with
  | case1 => rfl
  | case2 v => exact segments_cons_of_not_low h rest
  | case3 v w front hpair ih =>
    rw [List.cons_append, List.cons_append, segments, if_pos hpair, ih, List.cons_append]
  | case4 v w front hpair ih =>
    rw [List.cons_append, List.cons_append, segments, if_neg hpair, List.cons_append, ← ih,
      List.cons_append]

theorem decode_append (front : List UInt16) {u : UInt16} (h : isLow u = false)
    (rest : List UInt16) : decode (front ++ u :: rest) = decode front ++ decode (u :: rest) := by
  unfold decode
  rw [segments_append front h, List.map_append]

/-! ## ASCII -/

/-- The bytes below 0x80. -/
def IsAscii (bytes : List UInt8) : Prop := ∀ b ∈ bytes, b < 0x80

instance (bytes : List UInt8) : Decidable (IsAscii bytes) :=
  List.decidableBAll (· < 0x80) bytes

theorem not_surrogate_of_ascii {b : UInt8} (h : b < 0x80) :
    isHigh b.toUInt16 = false ∧ isLow b.toUInt16 = false := by
  have hb : b.toNat < 128 := UInt8.lt_iff_toNat_lt.mp h
  have hlow : ¬ (0xD800 : UInt16) ≤ b.toUInt16 := by
    rw [UInt16.le_iff_toNat_le, UInt8.toNat_toUInt16]
    show ¬ 0xD800 ≤ b.toNat
    omega
  have hhigh : ¬ (0xDC00 : UInt16) ≤ b.toUInt16 := by
    rw [UInt16.le_iff_toNat_le, UInt8.toNat_toUInt16]
    show ¬ 0xDC00 ≤ b.toNat
    omega
  simp [isHigh, isLow, hlow, hhigh]

/-- ASCII is characters. -/
theorem segments_ascii {bytes : List UInt8} (h : IsAscii bytes) :
    segments (bytes.map UInt8.toUInt16) = bytes.map fun b => .scalar (Char.ofNat b.toNat) := by
  induction bytes with
  | nil => rfl
  | cons b rest ih =>
    have hb := not_surrogate_of_ascii (h b List.mem_cons_self)
    have hrest : IsAscii rest := fun c hc => h c (List.mem_cons_of_mem b hc)
    have hsingle : single b.toUInt16 = .scalar (Char.ofNat b.toNat) := by
      unfold single
      rw [hb.1, hb.2, Bool.or_false, if_neg Bool.false_ne_true, UInt8.toNat_toUInt16]
    rw [List.map_cons, segments_cons_of_not_high hb.1, hsingle, List.map_cons, ih hrest]

theorem decode_ascii {bytes : List UInt8} (h : IsAscii bytes) :
    decode (bytes.map UInt8.toUInt16) = bytes.map fun b => Char.ofNat b.toNat := by
  rw [decode, segments_ascii h, List.map_map]
  rfl

end CrashDump.Text.Utf16

namespace CrashDump.Text.Utf8

theorem encodeChar_ascii {b : UInt8} (h : b < 0x80) :
    String.utf8EncodeChar (Char.ofNat b.toNat) = [b] := by
  have hb : b.toNat < 128 := UInt8.lt_iff_toNat_lt.mp h
  have hvalue : (Char.ofNat b.toNat).val.toNat = b.toNat := by
    rw [Char.ofNat, dif_pos (Or.inl (by omega))]
    rfl
  have hle : b.toNat ≤ 127 := by omega
  unfold String.utf8EncodeChar
  simp only [hvalue, if_pos hle, UInt8.ofNat_toNat]

theorem encode_ascii {bytes : List UInt8} (h : Utf16.IsAscii bytes) :
    encode (bytes.map fun b => Char.ofNat b.toNat) = bytes := by
  induction bytes with
  | nil => rfl
  | cons b rest ih =>
    have hrest : Utf16.IsAscii rest := fun c hc => h c (List.mem_cons_of_mem b hc)
    rw [List.map_cons, encode_cons, encodeChar_ascii (h b List.mem_cons_self), ih hrest]
    rfl

end CrashDump.Text.Utf8

namespace CrashDump.Codec

open Text

/-- ASCII behind any units is decoded as it stands. -/
theorem utf16_decode_append_ascii (front : List UInt16) {b : UInt8} {rest : List UInt8}
    (h : Utf16.IsAscii (b :: rest)) :
    utf16.decode (front ++ (b :: rest).map UInt8.toUInt16) = utf16.decode front ++ b :: rest := by
  have hlow := (Utf16.not_surrogate_of_ascii (h b List.mem_cons_self)).2
  show Utf8.encode (Utf16.decode _) = Utf8.encode (Utf16.decode _) ++ _
  rw [List.map_cons, Utf16.decode_append front hlow, Utf8.encode_append, ← List.map_cons,
    Utf16.decode_ascii h, Utf8.encode_ascii h]

end CrashDump.Codec
