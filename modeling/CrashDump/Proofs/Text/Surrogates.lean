import CrashDump.Proofs.Text.RoundTrip

/-!
# What is damaged in UTF-16

In 16-bit units only surrogates can be damaged: those that are no half of a pair.  Reading units as
text and writing them again leaves every other unit where it is, and puts U+FFFD, which takes one
unit, in place of each of these.

* `Unpaired` and `Mends`: the surrogates that are no half of a pair, and units without them.
* `unpaired_cons_zero` and `unpaired_cons_succ`: they are found from the front.
* `mends_encode_decode`: reading and writing again mends units.
* `isWellFormed_iff`: units without unpaired surrogates are text.
-/

namespace CrashDump.Text.Utf16

/-! ## Unpaired surrogates -/

/-- The unit at a place is a surrogate that is no half of a pair. -/
inductive Unpaired (units : List UInt16) (i : Nat) : Prop where
  /-- It can begin a pair, and no unit behind it ends one. -/
  | high {u : UInt16} (here : units[i]? = some u) (high : isHigh u = true)
      (next : ∀ v, units[i + 1]? = some v → isLow v = false)
  /-- It can end a pair, and no unit before it begins one. -/
  | low {u : UInt16} (here : units[i]? = some u) (low : isLow u = true)
      (previous : ∀ j v, j + 1 = i → units[j]? = some v → isHigh v = false)

/-- Each unpaired surrogate is replaced by U+FFFD, and nothing else is changed. -/
structure Mends (units mended : List UInt16) : Prop where
  unpaired : ∀ i, Unpaired units i → mended[i]? = some 0xFFFD
  other : ∀ i, ¬ Unpaired units i → mended[i]? = units[i]?

theorem not_high_of_low {u : UInt16} (h : isLow u = true) : isHigh u = false := by
  rw [← Bool.not_eq_true, isHigh_iff]
  rw [isLow_iff] at h
  omega

theorem not_unpaired_nil (i : Nat) : ¬ Unpaired [] i := by
  rintro (⟨here, -, -⟩ | ⟨here, -, -⟩) <;> simp at here

theorem unpaired_cons_zero {u : UInt16} {rest : List UInt16} :
    Unpaired (u :: rest) 0 ↔
      isLow u = true ∨ isHigh u = true ∧ ∀ v, rest[0]? = some v → isLow v = false := by
  constructor
  · rintro (⟨here, high, next⟩ | ⟨here, low, -⟩)
    · cases here
      exact .inr ⟨high, next⟩
    · cases here
      exact .inl low
  · rintro (low | ⟨high, next⟩)
    · exact .low rfl low (by simp)
    · exact .high rfl high next

/-- Further back, the first unit matters only if it begins a pair. -/
theorem unpaired_cons_succ {u : UInt16} {rest : List UInt16} {i : Nat}
    (apart : i = 0 → ∀ v, rest[0]? = some v → isLow v = true → isHigh u = false) :
    Unpaired (u :: rest) (i + 1) ↔ Unpaired rest i := by
  constructor
  · rintro (⟨here, high, next⟩ | ⟨here, low, previous⟩)
    · exact .high here high next
    · exact .low here low fun j v hj hv => previous (j + 1) v (by omega) hv
  · rintro (⟨here, high, next⟩ | ⟨here, low, previous⟩)
    · exact .high here high next
    · refine .low here low fun j v hj hv => ?_
      cases j with
      | zero =>
        obtain rfl : i = 0 := by omega
        cases hv
        exact apart rfl _ here low
      | succ j => exact previous j v (by omega) hv

/-! ## Reading and writing again -/

/-- A unit that is no surrogate is written as it was read. -/
theorem encodeChar_of_single {u : UInt16} (plain : ¬ (isHigh u = true ∨ isLow u = true)) :
    encodeChar (single u).read = [u] := by
  rw [single, if_neg (by simpa using plain), Segment.read_scalar]
  rw [isHigh_iff, isLow_iff] at plain
  have hlt := u.toNat_lt
  have hcode := toNat_ofNat (n := u.toNat) (by omega)
  unfold encodeChar
  rw [hcode, if_pos hlt]
  simp

/-- So is a pair. -/
theorem encodeChar_pair {u v : UInt16} (high : isHigh u = true) (low : isLow v = true) :
    encodeChar (pair u v) = [u, v] := by
  rw [isHigh_iff] at high
  rw [isLow_iff] at low
  have hcode := toNat_ofNat
    (n := 0x10000 + (u.toNat - 0xD800) * 0x400 + (v.toNat - 0xDC00)) (by omega)
  unfold encodeChar pair
  rw [hcode, if_neg (by omega)]
  have hfirst : 0xD800 + (0x10000 + (u.toNat - 0xD800) * 0x400 + (v.toNat - 0xDC00) - 0x10000) /
      0x400 = u.toNat := by omega
  have hsecond : 0xDC00 + (0x10000 + (u.toNat - 0xD800) * 0x400 + (v.toNat - 0xDC00) - 0x10000) %
      0x400 = v.toNat := by omega
  rw [hfirst, hsecond]
  simp

/-- A surrogate by itself is written as U+FFFD. -/
theorem encodeChar_of_surrogate {u : UInt16} (surrogate : isHigh u = true ∨ isLow u = true) :
    encodeChar (single u).read = [0xFFFD] := by
  have hdamaged : single u = .damaged [u] := by
    rw [single, if_pos (by simpa using surrogate)]
  rw [hdamaged]
  rfl

theorem Mends.nil : Mends [] [] where
  unpaired i h := absurd h (not_unpaired_nil i)
  other _ _ := rfl

/-- Behind a unit that begins no pair, mending starts anew. -/
theorem Mends.cons {u : UInt16} {rest mended : List UInt16} (mends : Mends rest mended)
    (apart : ∀ v, rest[0]? = some v → isLow v = true → isHigh u = false) :
    Mends (u :: rest) (encodeChar (single u).read ++ mended) := by
  have hbehind (i : Nat) : Unpaired (u :: rest) (i + 1) ↔ Unpaired rest i :=
    unpaired_cons_succ fun _ => apart
  have hfirst : Unpaired (u :: rest) 0 ↔ isHigh u = true ∨ isLow u = true := by
    rw [unpaired_cons_zero]
    constructor
    · rintro (low | ⟨high, -⟩)
      · exact .inr low
      · exact .inl high
    · rintro (high | low)
      · refine .inr ⟨high, fun v hv => ?_⟩
        rw [← Bool.not_eq_true]
        intro low
        rw [apart v hv low] at high
        cases high
      · exact .inl low
  by_cases surrogate : isHigh u = true ∨ isLow u = true
  · rw [encodeChar_of_surrogate surrogate]
    constructor
    · intro i h
      cases i with
      | zero => rfl
      | succ i => exact mends.unpaired i ((hbehind i).mp h)
    · intro i h
      cases i with
      | zero => exact absurd (hfirst.mpr surrogate) h
      | succ i => exact mends.other i fun h' => h ((hbehind i).mpr h')
  · rw [encodeChar_of_single surrogate]
    constructor
    · intro i h
      cases i with
      | zero => exact absurd (hfirst.mp h) surrogate
      | succ i => exact mends.unpaired i ((hbehind i).mp h)
    · intro i h
      cases i with
      | zero => rfl
      | succ i => exact mends.other i fun h' => h ((hbehind i).mpr h')

/-- Behind a pair, too. -/
theorem Mends.pair {u v : UInt16} {rest mended : List UInt16} (mends : Mends rest mended)
    (high : isHigh u = true) (low : isLow v = true) :
    Mends (u :: v :: rest) (u :: v :: mended) := by
  have hfirst : ¬ Unpaired (u :: v :: rest) 0 := by
    rw [unpaired_cons_zero]
    rintro (hlow | ⟨-, next⟩)
    · rw [not_high_of_low hlow] at high
      cases high
    · rw [next v rfl] at low
      cases low
  have hsecond : ¬ Unpaired (u :: v :: rest) 1 := by
    rintro (⟨here, hhigh, -⟩ | ⟨-, -, previous⟩)
    · cases here
      rw [not_high_of_low low] at hhigh
      cases hhigh
    · rw [previous 0 u rfl rfl] at high
      cases high
  have hbehind (i : Nat) : Unpaired (u :: v :: rest) (i + 2) ↔ Unpaired rest i := by
    rw [unpaired_cons_succ (by omega),
      unpaired_cons_succ fun _ _ _ _ => not_high_of_low low]
  constructor
  · intro i h
    match i with
    | 0 => exact absurd h hfirst
    | 1 => exact absurd h hsecond
    | i + 2 => exact mends.unpaired i ((hbehind i).mp h)
  · intro i h
    match i with
    | 0 => rfl
    | 1 => rfl
    | i + 2 => exact mends.other i fun h' => h ((hbehind i).mpr h')

/-- Units that are read and written again are mended. -/
theorem mends_encode_decode (units : List UInt16) : Mends units (encode (decode units)) := by
  unfold decode
  fun_induction segments units with
  | case1 => exact .nil
  | case2 u => exact Mends.nil.cons (by simp)
  | case3 u v rest hpair ih =>
    rw [Bool.and_eq_true] at hpair
    rw [List.map_cons, encode_cons, Segment.read_scalar, encodeChar_pair hpair.1 hpair.2]
    exact ih.pair hpair.1 hpair.2
  | case4 u v rest hpair ih =>
    rw [List.map_cons, encode_cons]
    refine ih.cons fun w hw low => ?_
    cases hw
    rw [← Bool.not_eq_true]
    intro high
    rw [high, low] at hpair
    exact hpair rfl

/-- There is nothing to mend just in units without unpaired surrogates. -/
theorem encode_decode_eq_iff {units : List UInt16} :
    encode (decode units) = units ↔ ∀ i, ¬ Unpaired units i := by
  have mends := mends_encode_decode units
  constructor
  · intro h i hunpaired
    have hhere := mends.unpaired i hunpaired
    rw [h] at hhere
    obtain ⟨here, high, -⟩ | ⟨here, low, -⟩ := hunpaired
    · rw [hhere] at here
      cases here
      cases high
    · rw [hhere] at here
      cases here
      cases low
  · intro h
    exact List.ext_getElem? fun i => mends.other i (h i)

/-- Text is what has no unpaired surrogate. -/
theorem isWellFormed_iff {units : List UInt16} :
    IsWellFormed units ↔ ∀ i, ¬ Unpaired units i := by
  rw [← encode_decode_eq_iff]
  constructor
  · rintro ⟨text, rfl⟩
    rw [decode_encode]
  · intro h
    exact ⟨decode units, h.symm⟩

end CrashDump.Text.Utf16
