import CrashDump.Proofs.Text.MaximalSubparts

/-!
# Reading UTF-8 piece by piece

A reader of UTF-8 may be stopped and started anew in front of any ASCII byte, be it inside a
sequence or not.  ASCII is read as it stands.
-/

namespace CrashDump.Text.Utf8

/-! ## Cutting -/

/-- What a reader is waiting for is no ASCII. -/
def State.Guarded : State → Prop
  | .between => True
  | .within _ next later => ∀ range ∈ next :: later, 0x80 ≤ range.low

/-- Behind a leading byte there is no ASCII. -/
theorem le_low_of_mem_followers {lead : UInt8} {range : ByteRange} (h : range ∈ followers lead) :
    0x80 ≤ range.low := by
  have hall : (followers lead).all (fun range => 0x80 ≤ range.low) = true := by
    unfold followers
    repeat' split
    all_goals rfl
  exact of_decide_eq_true (List.all_eq_true.mp hall range h)

theorem not_contains_of_ascii {range : ByteRange} {b : UInt8} (guarded : 0x80 ≤ range.low)
    (low : b < 0x80) : ¬ range.contains b = true := by
  rw [ByteRange.contains_iff]
  have hrange : 0x80 ≤ range.low.toNat := UInt8.le_iff_toNat_le.mp guarded
  have hbyte : b.toNat < 0x80 := UInt8.lt_iff_toNat_lt.mp low
  omega

theorem guarded_start (b : UInt8) : (start b).2.Guarded := by
  unfold start
  split
  · exact trivial
  · split
    · exact trivial
    · rename_i follow
      exact fun range h => le_low_of_mem_followers (follow ▸ h)

theorem State.Guarded.step {state : State} (guarded : state.Guarded) (b : UInt8) :
    (step state b).2.Guarded := by
  cases state with
  | between => exact guarded_start b
  | within begun next later =>
    by_cases fits : next.contains b = true
    · cases later with
      | nil =>
        rw [Utf8.step, if_pos fits]
        exact trivial
      | cons range later =>
        rw [Utf8.step, if_pos fits]
        exact fun other h => guarded other (List.mem_cons_of_mem next h)
    · simp only [Utf8.step, fits, Bool.false_eq_true, if_false]
      exact guarded_start b

/-- No character is cut in two in front of ASCII, wherever the reader stands. -/
theorem segmentsFrom_append {state : State} (guarded : state.Guarded) (front : List UInt8)
    {b : UInt8} (low : b < 0x80) (rest : List UInt8) :
    segmentsFrom state (front ++ b :: rest) = segmentsFrom state front ++ segments (b :: rest) := by
  induction front generalizing state with
  | nil =>
    cases state with
    | between => rfl
    | within begun next later =>
      exact segmentsFrom_within_stop
        (not_contains_of_ascii (guarded next List.mem_cons_self) low) rest
  | cons c front ih =>
    rw [List.cons_append, segmentsFrom_cons, segmentsFrom_cons, ih (guarded.step c),
      List.append_assoc]

theorem segments_append (front : List UInt8) {b : UInt8} (low : b < 0x80) (rest : List UInt8) :
    segments (front ++ b :: rest) = segments front ++ segments (b :: rest) :=
  @segmentsFrom_append .between trivial front b low rest

/-! ## ASCII -/

/-- ASCII is characters. -/
theorem segments_ascii {bytes : List UInt8} (h : Utf16.IsAscii bytes) :
    segments bytes = bytes.map fun b => .scalar (Char.ofNat b.toNat) := by
  induction bytes with
  | nil => rfl
  | cons b rest ih =>
    have hrest : Utf16.IsAscii rest := fun c hc => h c (List.mem_cons_of_mem b hc)
    rw [segments_cons_of_ascii (h b List.mem_cons_self), List.map_cons, ih hrest]
    rfl

end CrashDump.Text.Utf8
