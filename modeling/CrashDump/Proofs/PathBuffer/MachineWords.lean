import CrashDump.Proofs.PathBuffer.BoundedList

/-!
# Path buffers and the width of words

With every sum taken in machine words, and with every index and range checked, the edits of a path
buffer do what they do without.  This takes two things: a path that leaves a cell for its terminator,
which every edit keeps, and that nothing is longer than memory allows.  Then the greatest sum is two
below the one that would not fit in a word.

* `Word.maxLength`: how long anything in memory can be.
* `Checked.Same`: the same buffer, with a path that leaves a cell free.
* `Checked.matches_append` and so on: the checked edits match the others.
* `Checked.run_terminated_of_zero`: only the terminator of a buffer without cells is a panic.
-/

namespace CrashDump

/-- The greatest length of a sequence that lies in memory. -/
def Word.maxLength : Nat := 0x7FFFFFFFFFFFFFFF

/-- The end of a path in memory, a sequence in memory behind it and a terminator: their sum fits in
a word. -/
theorem Word.sum_lt_limit {first second : Nat} (hfirst : first ≤ maxLength - 1)
    (hsecond : second ≤ maxLength) : first + second + 1 < limit := by
  have hlimit : limit = 0x10000000000000000 := rfl
  have hmax : maxLength = 0x7FFFFFFFFFFFFFFF := rfl
  omega

namespace PathBuffer.Checked

variable {U : Type} {capacity : Nat}

/-- It is the same buffer, and its path leaves a cell free unless there is none. -/
structure Same (buffer other : PathBuffer U capacity) : Prop where
  eq : buffer = other
  inside : buffer.length ≤ capacity - 1

theorem Same.intro {buffer : PathBuffer U capacity} (inside : buffer.length ≤ capacity - 1) :
    Same buffer buffer := ⟨rfl, inside⟩

/-- What matches the edits of a buffer matches those of a list. -/
theorem matches_list {A : Type} {checked : Edit U capacity A}
    {edit : EStateM Stop (PathBuffer U capacity) A} {listed : BoundedList.Edit U A}
    (same : Matches Same checked edit) (shown : Matches Shows edit listed) :
    Matches Shows checked listed := by
  refine same.trans shown fun buffer list => ⟨fun shows => ?_, ?_⟩
  · exact ⟨buffer, .intro (shows.length ▸ shows.length_le), shows⟩
  · rintro ⟨_, ⟨rfl, -⟩, shows⟩
    exact shows

/-! ## Single steps -/

theorem run_check_add {buffer : PathBuffer U capacity} {a b : Nat} (h : a + b < Word.limit) :
    (check (Word.add a b) : Edit U capacity Nat).run buffer = .ok (a + b) buffer := by
  rw [Word.add_eq_ok h]
  rfl

theorem run_discard_check_add {buffer : PathBuffer U capacity} {a b : Nat}
    (h : a + b < Word.limit) :
    (discard (check (Word.add a b)) : Edit U capacity Unit).run buffer = .ok () buffer := by
  rw [Word.add_eq_ok h]
  rfl

/-- What decides is whether the units and a terminator fit. -/
theorem run_reserve_of_le {buffer : PathBuffer U capacity} {count : Nat}
    (words : buffer.length + count + 1 < Word.limit)
    (fits : buffer.length + count + 1 ≤ capacity) :
    (reserve count : Edit U capacity Unit).run buffer = .ok () buffer := by
  have hfirst : buffer.length + count < Word.limit := by omega
  simp only [reserve, EStateM.run_bind, EStateM.run_get, run_check_add hfirst, run_check_add words,
    gt_iff_lt, if_neg (Nat.not_lt.mpr fits)]
  rfl

theorem run_reserve_of_lt {buffer : PathBuffer U capacity} {count : Nat}
    (words : buffer.length + count + 1 < Word.limit)
    (exceeds : capacity < buffer.length + count + 1) :
    (reserve count : Edit U capacity Unit).run buffer = .error (.capacity .exceeded) buffer := by
  have hfirst : buffer.length + count < Word.limit := by omega
  simp only [reserve, EStateM.run_bind, EStateM.run_get, run_check_add hfirst, run_check_add words,
    gt_iff_lt, if_pos exceeds]
  rfl

theorem run_write {buffer : PathBuffer U capacity} {start : Nat} {units : List U}
    (fits : start + units.length ≤ capacity) :
    (write start units : Edit U capacity Unit).run buffer =
      .ok () (buffer.write start units fits) := dif_pos fits

theorem run_advance (buffer : PathBuffer U capacity) {count : Nat}
    (words : buffer.length + count < Word.limit) :
    (advance count : Edit U capacity Unit).run buffer =
      .ok () { buffer with length := buffer.length + count } := by
  simp only [advance, EStateM.run_bind, EStateM.run_get, run_check_add words, EStateM.run_modify]

/-- What the buffer shows is inside its cells. -/
theorem run_contents {buffer : PathBuffer U capacity} (inside : buffer.length ≤ capacity - 1) :
    (contents : Edit U capacity (List U)).run buffer = .ok buffer.contents buffer := by
  have hinside : ¬ buffer.length > capacity := by omega
  simp only [contents, EStateM.run_bind, EStateM.run_get, if_neg hinside]
  rfl

/-! ## Edits -/

theorem matches_clear : Matches Same (clear : Edit U capacity Unit)
    (PathBuffer.clear.adaptExcept Stop.capacity) := by
  rintro buffer _ ⟨rfl, -⟩
  exact .ok () (.intro (Nat.zero_le _))

section

variable (addressable : capacity ≤ Word.maxLength)
include addressable

theorem matches_append {units : List U} (short : units.length ≤ Word.maxLength) :
    Matches Same (append units : Edit U capacity Unit)
      ((PathBuffer.append units).adaptExcept Stop.capacity) := by
  rintro buffer _ ⟨rfl, inside⟩
  have hwords : buffer.length + units.length + 1 < Word.limit :=
    Word.sum_lt_limit (by omega) short
  have hsum : buffer.length + units.length < Word.limit := by omega
  rw [EStateM.run_adaptExcept]
  rcases Nat.lt_or_ge capacity (buffer.length + units.length + 1) with hlt | hle
  · rw [PathBuffer.run_append_of_lt hlt, append, EStateM.run_bind, run_reserve_of_lt hwords hlt]
    exact .error _ (.intro inside)
  · have hplace : buffer.length + units.length ≤ capacity := by omega
    have hrun : (PathBuffer.append units).run buffer = .ok ()
        { buffer.write buffer.length units hplace with
          length := buffer.length + units.length } := dif_pos hle
    rw [hrun]
    simp only [append, EStateM.run_bind, run_reserve_of_le hwords hle, EStateM.run_get,
      run_discard_check_add hsum, run_write hplace]
    rw [run_advance (buffer.write buffer.length units hplace) hsum]
    exact .ok () (.intro (Nat.le_sub_one_of_lt hle))

theorem matches_push (unit : U) :
    Matches Same (push unit : Edit U capacity Unit)
      ((PathBuffer.push unit).adaptExcept Stop.capacity) := by
  have short : [unit].length ≤ Word.maxLength := by
    rw [List.length_singleton]
    decide
  exact matches_append addressable short

variable [CodeUnit U]

/-- Filling cells one by one, for as long as there are cells and bytes, takes in all the bytes once
there is room for them. -/
theorem run_appendBytes {buffer : PathBuffer U capacity} {bytes : List UInt8}
    (inside : buffer.length ≤ capacity - 1) (short : bytes.length ≤ Word.maxLength) :
    (appendBytes bytes : Edit U capacity Unit).run buffer =
      (append (bytes.map CodeUnit.ofByte)).run buffer := by
  have hwords : buffer.length + bytes.length + 1 < Word.limit :=
    Word.sum_lt_limit (by omega) short
  have hsum : buffer.length + bytes.length < Word.limit := by omega
  rw [appendBytes, append, EStateM.run_bind, EStateM.run_bind, List.length_map]
  rcases Nat.lt_or_ge capacity (buffer.length + bytes.length + 1) with hlt | hle
  · rw [run_reserve_of_lt hwords hlt]
  · have hstart : ¬ buffer.length > capacity := by omega
    have hall : bytes.take (capacity - buffer.length) = bytes := List.take_of_length_le (by omega)
    rw [run_reserve_of_le hwords hle]
    simp only [EStateM.run_bind, EStateM.run_get, if_neg hstart, hall,
      run_discard_check_add hsum]

theorem matches_appendBytes {bytes : List UInt8} (short : bytes.length ≤ Word.maxLength) :
    Matches Same (appendBytes bytes : Edit U capacity Unit)
      ((PathBuffer.appendBytes bytes).adaptExcept Stop.capacity) := by
  rintro buffer other same
  rw [run_appendBytes addressable same.inside short]
  exact matches_append addressable (by rwa [List.length_map]) buffer other same

theorem matches_compose {directory id : List U} (shortDirectory : directory.length ≤ Word.maxLength)
    (shortId : id.length ≤ Word.maxLength) :
    Matches Same (compose directory id : Edit U capacity Unit)
      ((PathBuffer.compose directory id).adaptExcept Stop.capacity) := by
  simp only [PathBuffer.compose, adaptExcept_bind]
  exact matches_clear.bind fun _ => (matches_append addressable shortDirectory).bind fun _ =>
    (matches_push addressable _).bind fun _ =>
      (matches_append addressable shortId).bind fun _ =>
        matches_appendBytes addressable (by decide)

end

section

variable [CodeUnit U]

/-- With a cell left for it, the terminator is put there. -/
theorem run_terminated_of_lt {buffer : PathBuffer U capacity}
    (addressable : capacity ≤ Word.maxLength) (room : buffer.length < capacity) :
    (terminated : Edit U capacity (List U)).run buffer =
      .ok buffer.terminated.1 buffer.terminated.2 := by
  have hroom : buffer.length + 1 ≤ capacity := room
  have hwords : buffer.length + 1 < Word.limit := by
    have := Word.sum_lt_limit (Nat.zero_le _) addressable
    omega
  simp only [terminated, PathBuffer.terminated, EStateM.run_bind, EStateM.run_get, ge_iff_le,
    if_neg (Nat.not_le.mpr room), hroom, dif_pos]
  rw [run_write hroom]
  simp only [run_check_add hwords, gt_iff_lt, if_neg (Nat.not_lt.mpr hroom)]
  rfl

/-- A buffer without cells has none for it. -/
theorem run_terminated_of_zero {buffer : PathBuffer U 0} (empty : buffer.length = 0) :
    (terminated : Edit U 0 (List U)).run buffer =
      .error (.panic (.indexOutOfBounds 0 0)) buffer := by
  simp only [terminated, EStateM.run_bind, EStateM.run_get, empty]
  rfl

theorem matches_terminated (addressable : capacity ≤ Word.maxLength) :
    Matches Shows (terminated : Edit U capacity (List U)) (BoundedList.terminated capacity) := by
  intro buffer list shows
  rcases shows.inside with hlt | ⟨rfl, rfl⟩
  · rw [run_terminated_of_lt addressable (shows.length ▸ hlt)]
    exact PathBuffer.matches_terminated (Nat.zero_lt_of_lt hlt) buffer list shows
  · rw [run_terminated_of_zero shows.length]
    exact .error _ shows

end

end PathBuffer.Checked

end CrashDump
