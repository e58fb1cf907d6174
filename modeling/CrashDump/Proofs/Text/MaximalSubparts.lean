import CrashDump.Proofs.Text.RoundTrip

/-!
# What is damaged in UTF-8

Where no character is encoded, a reader has to decide how many bytes it replaces by one U+FFFD.
Unicode tells it to take a maximal subpart: as many bytes as still begin some encoded character, or
a single byte if none does.  The rule speaks of characters and their bytes only.  The reader that
goes byte by byte follows it on every input, and picks up again right behind the damage.

* `MaximalSubpart`, `Cut` and `Mends`: the rule, for one damaged piece and for all bytes.
* `IsSequence` and `exists_encodeChar_iff`: the bytes of a character, by the ranges they lie in.
* `Begun`: what the reader knows inside a sequence.
* `cut_segments` and `cut_iff`: the reader cuts bytes as the rule says, and no other cut does.
* `mends_iff` and `encode_decode_eq_iff`: what reading and writing again makes of bytes.
-/

namespace CrashDump.Text.Utf8

/-! ## The rule -/

/-- The bytes begin an encoded character, or are one. -/
def Begins (bytes : List UInt8) : Prop := ∃ c : Char, bytes <+: String.utf8EncodeChar c

/-- At the front of the bytes no character is encoded, and the part is the longest piece there that
still begins one, or a single byte if there is none. -/
structure MaximalSubpart (part rest : List UInt8) : Prop where
  nonempty : part ≠ []
  unconvertible : ∀ c : Char, ¬ String.utf8EncodeChar c <+: part ++ rest
  begins : Begins part ∨ part.length = 1
  maximal : ∀ longer, longer <+: part ++ rest → part.length < longer.length → ¬ Begins longer

/-- The bytes are cut into characters and maximal subparts. -/
inductive Cut : List UInt8 → List (Segment UInt8) → Prop where
  | nil : Cut [] []
  | scalar (c : Char) {rest : List UInt8} {others : List (Segment UInt8)}
      (cut : Cut rest others) : Cut (String.utf8EncodeChar c ++ rest) (.scalar c :: others)
  | damaged {part rest : List UInt8} {others : List (Segment UInt8)}
      (subpart : MaximalSubpart part rest) (cut : Cut rest others) :
      Cut (part ++ rest) (.damaged part :: others)

/-- Each maximal subpart is replaced by U+FFFD, and nothing else is changed. -/
def Mends (bytes mended : List UInt8) : Prop :=
  ∃ cut, Cut bytes cut ∧ mended = encode (cut.map Segment.read)

/-! ## What the reader does with a byte -/

section

variable {b : UInt8} {begun : List UInt8} {next range : ByteRange} {later : List ByteRange}

theorem segments_cons_of_ascii (low : b < 0x80) (rest : List UInt8) :
    segments (b :: rest) = .scalar (character [b]) :: segments rest := by
  rw [segments, segmentsFrom_cons, step, start, if_pos low]
  rfl

theorem segments_cons_of_stray (high : ¬ b < 0x80) (follow : followers b = [])
    (rest : List UInt8) : segments (b :: rest) = .damaged [b] :: segments rest := by
  rw [segments, segmentsFrom_cons, step, start, if_neg high, follow]
  rfl

theorem segments_cons_of_lead (high : ¬ b < 0x80) (follow : followers b = next :: later)
    (rest : List UInt8) : segments (b :: rest) = segmentsFrom (.within [b] next later) rest := by
  rw [segments, segmentsFrom_cons, step, start, if_neg high, follow]
  rfl

theorem segmentsFrom_within_last (fits : next.contains b = true) (rest : List UInt8) :
    segmentsFrom (.within begun next []) (b :: rest) =
      .scalar (character (begun ++ [b])) :: segments rest := by
  rw [segmentsFrom_cons, step, if_pos fits]
  rfl

theorem segmentsFrom_within_next (fits : next.contains b = true) (rest : List UInt8) :
    segmentsFrom (.within begun next (range :: later)) (b :: rest) =
      segmentsFrom (.within (begun ++ [b]) range later) rest := by
  rw [segmentsFrom_cons, step, if_pos fits]
  rfl

/-- A byte that does not continue the sequence is read again behind the damage. -/
theorem segmentsFrom_within_stop (misfit : ¬ next.contains b = true) (rest : List UInt8) :
    segmentsFrom (.within begun next later) (b :: rest) =
      .damaged begun :: segments (b :: rest) := by
  rw [segments, segmentsFrom_cons, segmentsFrom_cons]
  simp only [step, misfit, Bool.false_eq_true, if_false, List.cons_append]

end

/-! ## The bytes of a character -/

/-- The bytes lie where the leading one says that they have to. -/
inductive IsSequence : List UInt8 → Prop where
  | ascii {b : UInt8} (low : b < 0x80) : IsSequence [b]
  | led {lead : UInt8} {next : ByteRange} {later : List ByteRange} {bytes : List UInt8}
      (high : ¬ lead < 0x80) (follow : followers lead = next :: later)
      (fits : Fits (next :: later) bytes) : IsSequence (lead :: bytes)

/-- Inside a sequence, something is still to be read. -/
theorem segmentsFrom_within_ne_nil (begun : List UInt8) (next : ByteRange)
    (later : List ByteRange) (bytes : List UInt8) :
    segmentsFrom (.within begun next later) bytes ≠ [] := by
  induction bytes generalizing begun next later with
  | nil => simp [segmentsFrom]
  | cons b rest ih =>
    by_cases fits : next.contains b = true
    · cases later with
      | nil => simp [segmentsFrom_within_last fits]
      | cons range later =>
        rw [segmentsFrom_within_next fits]
        exact ih _ range later
    · simp [segmentsFrom_within_stop fits]

theorem segments_eq_nil_iff {bytes : List UInt8} : segments bytes = [] ↔ bytes = [] := by
  constructor
  · intro h
    cases bytes with
    | nil => rfl
    | cons b rest =>
      by_cases low : b < 0x80
      · simp [segments_cons_of_ascii low] at h
      · cases follow : followers b with
        | nil => simp [segments_cons_of_stray low follow] at h
        | cons next later =>
          rw [segments_cons_of_lead low follow] at h
          exact absurd h (segmentsFrom_within_ne_nil _ _ _ _)
  · rintro rfl
    rfl

/-- If a single character comes of it, the rest of a sequence lies where it has to. -/
theorem fits_of_segmentsFrom {begun : List UInt8} {next : ByteRange} {later : List ByteRange}
    {bytes : List UInt8} {c : Char}
    (h : segmentsFrom (.within begun next later) bytes = [.scalar c]) :
    Fits (next :: later) bytes := by
  induction bytes generalizing begun next later with
  | nil => simp [segmentsFrom] at h
  | cons b rest ih =>
    by_cases fits : next.contains b = true
    · refine .cons fits ?_
      cases later with
      | nil =>
        rw [segmentsFrom_within_last fits, List.cons.injEq, segments_eq_nil_iff] at h
        rw [h.2]
        exact .nil
      | cons range later =>
        rw [segmentsFrom_within_next fits] at h
        exact ih h
    · simp [segmentsFrom_within_stop fits] at h

theorem isSequence_encodeChar (c : Char) : IsSequence (String.utf8EncodeChar c) := by
  have hread : segments (String.utf8EncodeChar c) = [.scalar c] := by
    simpa [segments, segmentsFrom] using segmentsFrom_encodeChar c []
  cases hbytes : String.utf8EncodeChar c with
  | nil =>
    rw [hbytes] at hread
    cases hread
  | cons lead bytes =>
    rw [hbytes] at hread
    by_cases low : lead < 0x80
    · rw [segments_cons_of_ascii low, List.cons.injEq, segments_eq_nil_iff] at hread
      rw [hread.2]
      exact .ascii low
    · cases follow : followers lead with
      | nil => simp [segments_cons_of_stray low follow] at hread
      | cons next later =>
        rw [segments_cons_of_lead low follow] at hread
        exact .led low follow (fits_of_segmentsFrom hread)

/-- The ways a sequence of more than one byte can be led. -/
theorem followers_cases {lead : UInt8} {next : ByteRange} {later : List ByteRange}
    (follow : followers lead = next :: later) :
    (later = [] ∧ next = continuation ∧ 0xC2 ≤ lead.toNat ∧ lead.toNat < 0xE0) ∨
    (later = [continuation] ∧ 0xE0 ≤ lead.toNat ∧ lead.toNat < 0xF0 ∧
      0x80 ≤ next.low.toNat ∧ next.high.toNat ≤ 0xBF ∧
      (lead.toNat = 0xE0 → next.low.toNat = 0xA0) ∧
      (lead.toNat = 0xED → next.high.toNat = 0x9F)) ∨
    (later = [continuation, continuation] ∧ 0xF0 ≤ lead.toNat ∧ lead.toNat ≤ 0xF4 ∧
      0x80 ≤ next.low.toNat ∧ next.high.toNat ≤ 0xBF ∧
      (lead.toNat = 0xF0 → next.low.toNat = 0x90) ∧
      (lead.toNat = 0xF4 → next.high.toNat = 0x8F)) := by
  have hlow : continuation.low.toNat = 0x80 := rfl
  have hhigh : continuation.high.toNat = 0xBF := rfl
  unfold followers at follow
  simp only [UInt8.lt_iff_toNat_lt, ← UInt8.toNat_inj, UInt8.reduceToNat] at follow
  split at follow
  · cases follow
  split at follow
  · cases follow
    exact .inl ⟨rfl, rfl, by omega, by omega⟩
  split at follow
  · cases follow
    refine .inr (.inl ⟨rfl, by omega, by omega, by decide, by decide, fun _ => rfl, by omega⟩)
  split at follow
  · cases follow
    refine .inr (.inl ⟨rfl, by omega, by omega, by decide, by decide, by omega, fun _ => rfl⟩)
  split at follow
  · cases follow
    refine .inr (.inl ⟨rfl, by omega, by omega, by decide, by decide, by omega, by omega⟩)
  split at follow
  · cases follow
    refine .inr (.inr ⟨rfl, by omega, by omega, by decide, by decide, fun _ => rfl, by omega⟩)
  split at follow
  · cases follow
    refine .inr (.inr ⟨rfl, by omega, by omega, by decide, by decide, by omega, by omega⟩)
  split at follow
  · cases follow
    refine .inr (.inr ⟨rfl, by omega, by omega, by decide, by decide, by omega, fun _ => rfl⟩)
  · cases follow

/-- A byte is known by its number. -/
theorem byte_eq {n : Nat} {b : UInt8} (h : n = b.toNat) : UInt8.ofNat n = b := by
  rw [h, UInt8.ofNat_toNat]

/-! Sequences of two, three and four bytes are characters. -/

section

variable {lead b c d : UInt8} {next : ByteRange}

theorem exists_encodeChar_of_two (low : 0xC2 ≤ lead.toNat) (high : lead.toNat < 0xE0)
    (second : continuation.contains b = true) :
    ∃ character : Char, String.utf8EncodeChar character = [lead, b] := by
  obtain ⟨hb, hb'⟩ : 0x80 ≤ b.toNat ∧ b.toNat ≤ 0xBF := (ByteRange.contains_iff _ b).mp second
  have hcode := toNat_ofNat
    (n := (lead.toNat - 0xC0) * 64 + (b.toNat - 0x80)) (by omega)
  rw [← Char.toNat_val] at hcode
  generalize Char.ofNat _ = character at hcode
  have h₁ : ¬ character.val.toNat ≤ 0x7F := by omega
  have h₂ : character.val.toNat ≤ 0x7FF := by omega
  have hencode : String.utf8EncodeChar character = _ := (if_neg h₁).trans (if_pos h₂)
  refine ⟨character, hencode.trans ?_⟩
  rw [byte_eq (b := lead) (by omega), byte_eq (b := b) (by omega)]

theorem exists_encodeChar_of_three (low : 0xE0 ≤ lead.toNat) (high : lead.toNat < 0xF0)
    (wide : 0x80 ≤ next.low.toNat ∧ next.high.toNat ≤ 0xBF)
    (long : lead.toNat = 0xE0 → next.low.toNat = 0xA0)
    (surrogate : lead.toNat = 0xED → next.high.toNat = 0x9F)
    (second : next.contains b = true) (third : continuation.contains c = true) :
    ∃ character : Char, String.utf8EncodeChar character = [lead, b, c] := by
  obtain ⟨hb, hb'⟩ := (ByteRange.contains_iff next b).mp second
  obtain ⟨hc, hc'⟩ : 0x80 ≤ c.toNat ∧ c.toNat ≤ 0xBF := (ByteRange.contains_iff _ c).mp third
  have hcode := toNat_ofNat
    (n := (lead.toNat - 0xE0) * 4096 + (b.toNat - 0x80) * 64 + (c.toNat - 0x80)) (by omega)
  rw [← Char.toNat_val] at hcode
  generalize Char.ofNat _ = character at hcode
  have h₁ : ¬ character.val.toNat ≤ 0x7F := by omega
  have h₂ : ¬ character.val.toNat ≤ 0x7FF := by omega
  have h₃ : character.val.toNat ≤ 0xFFFF := by omega
  have hencode : String.utf8EncodeChar character = _ :=
    (if_neg h₁).trans ((if_neg h₂).trans (if_pos h₃))
  refine ⟨character, hencode.trans ?_⟩
  rw [byte_eq (b := lead) (by omega), byte_eq (b := b) (by omega), byte_eq (b := c) (by omega)]

theorem exists_encodeChar_of_four (low : 0xF0 ≤ lead.toNat) (high : lead.toNat ≤ 0xF4)
    (wide : 0x80 ≤ next.low.toNat ∧ next.high.toNat ≤ 0xBF)
    (long : lead.toNat = 0xF0 → next.low.toNat = 0x90)
    (last : lead.toNat = 0xF4 → next.high.toNat = 0x8F)
    (second : next.contains b = true) (third : continuation.contains c = true)
    (fourth : continuation.contains d = true) :
    ∃ character : Char, String.utf8EncodeChar character = [lead, b, c, d] := by
  obtain ⟨hb, hb'⟩ := (ByteRange.contains_iff next b).mp second
  obtain ⟨hc, hc'⟩ : 0x80 ≤ c.toNat ∧ c.toNat ≤ 0xBF := (ByteRange.contains_iff _ c).mp third
  obtain ⟨hd, hd'⟩ : 0x80 ≤ d.toNat ∧ d.toNat ≤ 0xBF := (ByteRange.contains_iff _ d).mp fourth
  have hcode := toNat_ofNat
    (n := (lead.toNat - 0xF0) * 262144 + (b.toNat - 0x80) * 4096 + (c.toNat - 0x80) * 64 +
      (d.toNat - 0x80)) (by omega)
  rw [← Char.toNat_val] at hcode
  generalize Char.ofNat _ = character at hcode
  have h₁ : ¬ character.val.toNat ≤ 0x7F := by omega
  have h₂ : ¬ character.val.toNat ≤ 0x7FF := by omega
  have h₃ : ¬ character.val.toNat ≤ 0xFFFF := by omega
  have hencode : String.utf8EncodeChar character = _ :=
    (if_neg h₁).trans ((if_neg h₂).trans (if_neg h₃))
  refine ⟨character, hencode.trans ?_⟩
  rw [byte_eq (b := lead) (by omega), byte_eq (b := b) (by omega), byte_eq (b := c) (by omega),
    byte_eq (b := d) (by omega)]

end

/-- The sequences are just the encoded characters. -/
theorem exists_encodeChar_iff {bytes : List UInt8} :
    (∃ c : Char, String.utf8EncodeChar c = bytes) ↔ IsSequence bytes := by
  constructor
  · rintro ⟨c, rfl⟩
    exact isSequence_encodeChar c
  · intro h
    cases h with
    | @ascii b low => exact ⟨Char.ofNat b.toNat, encodeChar_ascii low⟩
    | led high follow fits =>
      obtain _ | ⟨second, others⟩ := fits
      rcases followers_cases follow with ⟨rfl, rfl, low, high⟩ |
        ⟨rfl, low, high, wide, wide', long, surrogate⟩ | ⟨rfl, low, high, wide, wide', long, last⟩
      · obtain _ | _ := others
        exact exists_encodeChar_of_two low high second
      · obtain _ | ⟨third, others⟩ := others
        obtain _ | _ := others
        exact exists_encodeChar_of_three low high ⟨wide, wide'⟩ long surrogate second third
      · obtain _ | ⟨third, others⟩ := others
        obtain _ | ⟨fourth, others⟩ := others
        obtain _ | _ := others
        exact exists_encodeChar_of_four low high ⟨wide, wide'⟩ long last second third fourth

/-- The reader takes a sequence for the character that it encodes. -/
theorem IsSequence.encodeChar_character {bytes : List UInt8} (sequence : IsSequence bytes) :
    String.utf8EncodeChar (character bytes) = bytes := by
  have hread : segments bytes = [.scalar (character bytes)] := by
    cases sequence with
    | ascii low => exact segments_cons_of_ascii low []
    | @led lead next later bytes high follow fits =>
      have h := segmentsFrom_lead (Nat.le_of_not_lt high) follow fits []
      rwa [List.append_nil] at h
  obtain ⟨c, rfl⟩ := exists_encodeChar_iff.mpr sequence
  have hchar := segmentsFrom_encodeChar c []
  rw [List.append_nil] at hchar
  have hsame := (List.cons.inj (hread.symm.trans hchar)).1
  rw [Segment.scalar.inj hsame]

/-- No encoded character begins another one. -/
theorem eq_of_encodeChar_append {a b : Char} {first second : List UInt8}
    (h : String.utf8EncodeChar a ++ first = String.utf8EncodeChar b ++ second) :
    a = b ∧ first = second := by
  have hread := segmentsFrom_encodeChar a first
  rw [h, segmentsFrom_encodeChar b second] at hread
  have hchar : a = b := by
    have := (List.cons.inj hread).1
    exact (Segment.scalar.inj this).symm
  subst hchar
  exact ⟨rfl, List.append_cancel_left h⟩

/-! ## Inside a sequence -/

theorem Fits.append {first second : List ByteRange} {front back : List UInt8}
    (h₁ : Fits first front) (h₂ : Fits second back) : Fits (first ++ second) (front ++ back) := by
  induction h₁ with
  | nil => exact h₂
  | cons fits _ ih => exact .cons fits ih

theorem Fits.of_append {first second : List ByteRange} {front back : List UInt8}
    (h₁ : Fits first front) (h : Fits (first ++ second) (front ++ back)) : Fits second back := by
  induction h₁ with
  | nil => exact h
  | cons _ _ ih =>
    obtain _ | ⟨_, others⟩ := h
    exact ih others

/-- Some byte lies in each of the ranges behind a leading byte. -/
theorem contains_low {lead : UInt8} {range : ByteRange} (h : range ∈ followers lead) :
    range.contains range.low = true := by
  have hall : (followers lead).all (fun range => range.contains range.low) = true := by
    unfold followers
    repeat' split
    all_goals rfl
  exact List.all_eq_true.mp hall range h

/-- The reader began a sequence, and the bytes in these ranges are still to come. -/
structure Begun (begun : List UInt8) (ranges : List ByteRange) : Prop where
  lasting : ranges ≠ []
  led : ∃ lead tail read, begun = lead :: tail ∧ ¬ lead < 0x80 ∧
    followers lead = read ++ ranges ∧ Fits read tail

namespace Begun

variable {begun bytes rest : List UInt8} {ranges later : List ByteRange} {next : ByteRange}

theorem of_lead {lead : UInt8} (high : ¬ lead < 0x80) (follow : followers lead = next :: later) :
    Begun [lead] (next :: later) :=
  ⟨List.cons_ne_nil _ _, lead, [], [], rfl, high, follow, .nil⟩

theorem ne_nil (h : Begun begun ranges) : begun ≠ [] := by
  obtain ⟨lead, tail, read, rfl, -⟩ := h.led
  exact List.cons_ne_nil lead tail

/-- The next byte is read. -/
theorem advance {b : UInt8} {range : ByteRange} (h : Begun begun (next :: range :: later))
    (fits : next.contains b = true) : Begun (begun ++ [b]) (range :: later) := by
  obtain ⟨lead, tail, read, rfl, high, follow, hread⟩ := h.led
  refine ⟨List.cons_ne_nil _ _, lead, tail ++ [b], read ++ [next], rfl, high, ?_, ?_⟩
  · rw [follow, List.append_assoc]
    rfl
  · exact hread.append (.cons fits .nil)

/-- The bytes that complete the sequence are those that lie in the ranges. -/
theorem isSequence_iff (h : Begun begun ranges) :
    IsSequence (begun ++ bytes) ↔ Fits ranges bytes := by
  obtain ⟨lead, tail, read, rfl, high, follow, hread⟩ := h.led
  constructor
  · intro sequence
    rw [List.cons_append] at sequence
    generalize hbytes : tail ++ bytes = behind at sequence
    cases sequence with
    | ascii low => exact absurd low high
    | led _ hfollow fits =>
      rw [← hfollow, follow, ← hbytes] at fits
      exact hread.of_append fits
  · intro fits
    have hall : Fits (followers lead) (tail ++ bytes) := by
      rw [follow]
      exact hread.append fits
    cases hfollowers : followers lead with
    | nil =>
      rw [follow, List.append_eq_nil_iff] at hfollowers
      exact absurd hfollowers.2 h.lasting
    | cons next later =>
      rw [hfollowers] at hall
      exact .led high hfollowers hall

/-- Every sequence that was begun can be completed. -/
theorem exists_fits (h : Begun begun ranges) : ∃ bytes, bytes ≠ [] ∧ Fits ranges bytes := by
  obtain ⟨lead, tail, read, rfl, -, follow, -⟩ := h.led
  have hlow : ∀ range ∈ ranges, range.contains range.low = true := by
    intro range hrange
    have hmem : range ∈ followers lead := by
      rw [follow]
      exact List.mem_append_right read hrange
    exact contains_low hmem
  have hfits : ∀ some : List ByteRange, (∀ range ∈ some, range.contains range.low = true) →
      Fits some (some.map (·.low)) := by
    intro some hsome
    induction some with
    | nil => exact .nil
    | cons range others ih =>
      refine .cons (hsome range List.mem_cons_self) (ih ?_)
      exact fun other hother => hsome other (List.mem_cons_of_mem _ hother)
  refine ⟨ranges.map (·.low), ?_, hfits ranges hlow⟩
  rw [ne_eq, List.map_eq_nil_iff]
  exact h.lasting

theorem begins (h : Begun begun ranges) : Begins begun := by
  obtain ⟨bytes, -, fits⟩ := h.exists_fits
  obtain ⟨c, hc⟩ := exists_encodeChar_iff.mpr (h.isSequence_iff.mpr fits)
  exact ⟨c, bytes, hc.symm⟩

/-- What begins a character and is longer goes on with a byte that lies where it has to. -/
theorem contains_of_begins {b : UInt8} {more : List UInt8} (h : Begun begun (next :: later))
    (longer : Begins (begun ++ b :: more)) : next.contains b = true := by
  obtain ⟨c, rest, hc⟩ := longer
  have sequence : IsSequence (begun ++ (b :: more ++ rest)) := by
    rw [← List.append_assoc, hc]
    exact isSequence_encodeChar c
  obtain _ | ⟨fits, -⟩ := h.isSequence_iff.mp sequence
  exact fits

/-- A sequence that does not go on is a maximal subpart. -/
theorem maximalSubpart (h : Begun begun (next :: later))
    (stops : ∀ b ∈ rest.head?, ¬ next.contains b = true) : MaximalSubpart begun rest := by
  -- what is longer and lies at the front shows the next byte
  have hmaximal : ∀ longer, longer <+: begun ++ rest → begun.length < longer.length →
      ¬ Begins longer := by
    intro longer hlonger hlength hbegins
    obtain ⟨more, rfl⟩ :=
      List.prefix_of_prefix_length_le (List.prefix_append begun rest) hlonger (Nat.le_of_lt hlength)
    rw [List.prefix_append_right_inj] at hlonger
    cases more with
    | nil => simp at hlength
    | cons b more =>
      obtain ⟨behind, rfl⟩ := hlonger
      exact stops b rfl (h.contains_of_begins hbegins)
  refine ⟨h.ne_nil, ?_, .inl h.begins, hmaximal⟩
  rintro c hc
  rcases Nat.lt_or_ge begun.length (String.utf8EncodeChar c).length with hlt | hle
  · exact hmaximal _ hc hlt ⟨c, List.prefix_rfl⟩
  · -- a character inside the sequence would begin the one that completes it
    obtain ⟨behind, hbegun⟩ :=
      List.prefix_of_prefix_length_le hc (List.prefix_append begun rest) hle
    obtain ⟨bytes, hbytes, fits⟩ := h.exists_fits
    obtain ⟨whole, hwhole⟩ := exists_encodeChar_iff.mpr (h.isSequence_iff.mpr fits)
    rw [← hbegun, List.append_assoc] at hwhole
    have hnone := (eq_of_encodeChar_append ((List.append_nil _).trans hwhole)).2
    exact hbytes (List.append_eq_nil_iff.mp hnone.symm).2

end Begun

/-! ## The reader follows the rule -/

/-- A byte that leads no sequence is a maximal subpart. -/
theorem maximalSubpart_of_stray {b : UInt8} (high : ¬ b < 0x80) (follow : followers b = [])
    (rest : List UInt8) : MaximalSubpart [b] rest := by
  have hnone : ∀ more, ¬ Begins (b :: more) := by
    rintro more ⟨c, behind, hc⟩
    have sequence := isSequence_encodeChar c
    rw [← hc, List.cons_append] at sequence
    generalize more ++ behind = bytes at sequence
    cases sequence with
    | ascii low => exact high low
    | led _ hfollow _ =>
      rw [follow] at hfollow
      cases hfollow
  refine ⟨List.cons_ne_nil _ _, ?_, .inr rfl, ?_⟩
  · rintro c hc
    cases hbytes : String.utf8EncodeChar c with
    | nil => exact String.utf8EncodeChar_ne_nil hbytes
    | cons first more =>
      rw [hbytes, List.singleton_append, List.cons_prefix_cons] at hc
      exact hnone more ⟨c, [], by rw [List.append_nil, hbytes, hc.1]⟩
  · intro longer hlonger hlength
    cases longer with
    | nil => simp at hlength
    | cons first more =>
      rw [List.singleton_append, List.cons_prefix_cons] at hlonger
      rw [hlonger.1]
      exact hnone more

/-- From the start and inside a sequence, the reader cuts bytes as the rule says. -/
theorem cut_of_reader (bytes : List UInt8) :
    Cut bytes (segments bytes) ∧
    ∀ begun next later, Begun begun (next :: later) →
      Cut (begun ++ bytes) (segmentsFrom (.within begun next later) bytes) := by
  induction bytes with
  | nil =>
    refine ⟨.nil, fun begun next later h => ?_⟩
    exact .damaged (h.maximalSubpart (by simp)) .nil
  | cons b rest ih =>
    obtain ⟨hrest, hwithin⟩ := ih
    have hstart : Cut (b :: rest) (segments (b :: rest)) := by
      by_cases low : b < 0x80
      · have hcut := Cut.scalar (character [b]) hrest
        rwa [(IsSequence.ascii low).encodeChar_character, ← segments_cons_of_ascii low] at hcut
      · cases follow : followers b with
        | nil =>
          rw [segments_cons_of_stray low follow]
          exact .damaged (maximalSubpart_of_stray low follow rest) hrest
        | cons next later =>
          rw [segments_cons_of_lead low follow]
          exact hwithin [b] next later (.of_lead low follow)
    refine ⟨hstart, fun begun next later h => ?_⟩
    by_cases fits : next.contains b = true
    · cases later with
      | nil =>
        have sequence : IsSequence (begun ++ [b]) := h.isSequence_iff.mpr (.cons fits .nil)
        have hcut := Cut.scalar (character (begun ++ [b])) hrest
        rwa [sequence.encodeChar_character, ← segmentsFrom_within_last fits, ← List.append_cons]
          at hcut
      | cons range later =>
        rw [segmentsFrom_within_next fits, List.append_cons]
        exact hwithin (begun ++ [b]) range later (h.advance fits)
    · rw [segmentsFrom_within_stop fits]
      exact .damaged (h.maximalSubpart (by simpa using fits)) hstart

/-- The reader cuts bytes as the rule says. -/
theorem cut_segments (bytes : List UInt8) : Cut bytes (segments bytes) :=
  (cut_of_reader bytes).1

theorem MaximalSubpart.length_le {part rest other behind : List UInt8}
    (subpart : MaximalSubpart part rest) (another : MaximalSubpart other behind)
    (h : part ++ rest = other ++ behind) : other.length ≤ part.length := by
  refine Nat.le_of_not_lt fun hlt => ?_
  have hlong := subpart.maximal other (h ▸ List.prefix_append other behind) hlt
  have hone := another.begins.resolve_left hlong
  have hpart := List.length_pos_iff.mpr subpart.nonempty
  omega

/-- The rule leaves no choice. -/
theorem Cut.unique {bytes : List UInt8} {first second : List (Segment UInt8)}
    (h₁ : Cut bytes first) (h₂ : Cut bytes second) : first = second := by
  induction h₁ generalizing second with
  | nil =>
    generalize hbytes : ([] : List UInt8) = bytes at h₂
    cases h₂ with
    | nil => rfl
    | scalar c =>
      exact absurd (List.append_eq_nil_iff.mp hbytes.symm).1 String.utf8EncodeChar_ne_nil
    | damaged subpart => exact absurd (List.append_eq_nil_iff.mp hbytes.symm).1 subpart.nonempty
  | scalar c cut ih =>
    generalize hbytes : String.utf8EncodeChar c ++ _ = bytes at h₂
    cases h₂ with
    | nil => exact absurd (List.append_eq_nil_iff.mp hbytes).1 String.utf8EncodeChar_ne_nil
    | scalar other cut' =>
      obtain ⟨rfl, rfl⟩ := eq_of_encodeChar_append hbytes
      rw [ih cut']
    | damaged subpart => exact absurd ⟨_, hbytes⟩ (subpart.unconvertible c)
  | @damaged part rest others subpart cut ih =>
    generalize hbytes : part ++ rest = bytes at h₂
    cases h₂ with
    | nil => exact absurd (List.append_eq_nil_iff.mp hbytes).1 subpart.nonempty
    | scalar other => exact absurd ⟨_, hbytes.symm⟩ (subpart.unconvertible other)
    | damaged another cut' =>
      have hlength := Nat.le_antisymm (another.length_le subpart hbytes.symm)
        (subpart.length_le another hbytes)
      obtain ⟨rfl, rfl⟩ := List.append_inj hbytes hlength
      rw [ih cut']

theorem cut_iff {bytes : List UInt8} {cut : List (Segment UInt8)} :
    Cut bytes cut ↔ cut = segments bytes := by
  constructor
  · intro h
    exact h.unique (cut_segments bytes)
  · rintro rfl
    exact cut_segments bytes

/-- Bytes are mended in one way, by reading them and writing what was read. -/
theorem mends_iff {bytes mended : List UInt8} :
    Mends bytes mended ↔ mended = encode (decode bytes) := by
  constructor
  · rintro ⟨cut, hcut, rfl⟩
    rw [cut_iff.mp hcut]
    rfl
  · rintro rfl
    exact ⟨segments bytes, cut_segments bytes, rfl⟩

theorem encode_decode_eq_iff {bytes : List UInt8} :
    encode (decode bytes) = bytes ↔ IsValid bytes := by
  constructor
  · intro h
    exact ⟨decode bytes, h.symm⟩
  · rintro ⟨text, rfl⟩
    rw [decode_encode]

end CrashDump.Text.Utf8
