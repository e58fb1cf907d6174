import CrashDump.Proofs.PathBuffer.Calls
import Mathlib.Data.List.Forall2

/-!
# Panics of path buffers

Where every sum is taken in machine words and every index and range is checked, a failed check is a
panic.  There is one use of a path buffer that panics: a terminator is asked for where there is no
cell.  All others succeed, or run out of capacity.

* `PanicFree`: an edit that does not panic, in whatever state.
* `Call.panics_iff`: which calls panic.
* `forall₂_answerAll`: what holds of the answer to each call holds of those to a sequence of calls.
* `Checked.requiredUnits_eq_error_iff`: the length of a directory from which on its room does not fit
  in a word.
-/

namespace CrashDump

variable {U S A B C ε : Type} {capacity : Nat}

open PathBuffer.Checked (Stop)

/-! ## Answers -/

/-- What an edit answers, or the cause for which it stopped. -/
def answerOf : EStateM.Result ε S A → Except ε A
  | .ok answer _ => .ok answer
  | .error cause _ => .error cause

/-- What holds of the answer to each edit, in whatever state, holds of the answers to all. -/
theorem forall₂_answerAll {holds : C → Except ε A → Prop} {edit : C → EStateM ε S A}
    (each : ∀ call state, holds call (answerOf ((edit call).run state))) (calls : List C)
    (state : S) : List.Forall₂ holds calls (answerAll (calls.map edit) state).1 := by
  induction calls generalizing state with
  | nil => exact .nil
  | cons call rest ih =>
    have hcall := each call state
    simp only [List.map_cons, answerAll]
    cases hrun : (edit call).run state with
    | ok answer after =>
      rw [hrun] at hcall
      exact .cons hcall (ih after)
    | error cause after =>
      rw [hrun] at hcall
      exact .cons hcall (ih after)

/-! ## Edits that do not panic -/

/-- The edit does not panic, in whatever state. -/
def PanicFree (edit : EStateM Stop S A) : Prop :=
  ∀ state cause, answerOf (edit.run state) ≠ .error (.panic cause)

theorem PanicFree.pure (answer : A) : PanicFree (Pure.pure answer : EStateM Stop S A) :=
  fun _ _ h => nomatch h

theorem PanicFree.bind {edit : EStateM Stop S A} {next : A → EStateM Stop S B}
    (head : PanicFree edit) (tail : ∀ answer, PanicFree (next answer)) :
    PanicFree (edit >>= next) := by
  intro state cause
  have hhead := head state cause
  rw [EStateM.run_bind]
  generalize edit.run state = outcome at hhead
  cases outcome with
  | ok answer after => exact tail answer after cause
  | error stop after =>
    intro h
    cases h
    exact hhead rfl

namespace BoundedList

theorem panicFree_clear : PanicFree (clear : Edit U Unit) :=
  fun _ _ h => nomatch h

theorem panicFree_append (capacity : Nat) (units : List U) :
    PanicFree (append capacity units) := by
  intro list cause
  rcases Nat.lt_or_ge capacity (list.length + units.length + 1) with hlt | hle
  · rw [run_append_of_lt hlt]
    exact fun h => nomatch h
  · rw [run_append_of_le hle]
    exact fun h => nomatch h

theorem panicFree_compose [CodeUnit U] (capacity : Nat) (directory id : List U) :
    PanicFree (compose capacity directory id) :=
  panicFree_clear.bind fun _ => (panicFree_append capacity directory).bind fun _ =>
    (panicFree_append capacity [_]).bind fun _ => (panicFree_append capacity id).bind fun _ =>
      panicFree_append capacity _

end BoundedList

theorem PanicFree.silent {edit : EStateM Stop S Unit} (h : PanicFree edit) :
    PanicFree (CrashDump.silent edit : EStateM Stop S (List U)) :=
  h.bind fun _ => .pure []

theorem panicFree_takeOver (made : Option S) :
    PanicFree (takeOver made : EStateM Stop S (List U)) := by
  intro state cause
  cases made with
  | some made => exact fun h => nomatch h
  | none => exact fun h => nomatch h

/-! ## Calls -/

namespace PathBuffer

variable [CodeUnit U]

/-- No call but one panics. -/
theorem Call.panicFree {call : Call U} (plain : call ≠ terminated) :
    PanicFree (call.performListed capacity) := by
  cases call with
  | new => exact panicFree_takeOver (some [])
  | default => exact panicFree_takeOver (some [])
  | ofList units => exact panicFree_takeOver _
  | clear => exact PanicFree.silent BoundedList.panicFree_clear
  | push unit => exact PanicFree.silent (BoundedList.panicFree_append capacity [unit])
  | append units => exact PanicFree.silent (BoundedList.panicFree_append capacity units)
  | appendBytes bytes => exact PanicFree.silent (BoundedList.panicFree_append capacity _)
  | compose directory id =>
    exact PanicFree.silent (BoundedList.panicFree_compose capacity directory id)
  | terminated => exact absurd rfl plain

/-- That one panics where there is no cell. -/
theorem Call.panics_iff (call : Call U) (list : List U) (cause : Panic) :
    answerOf ((call.performListed capacity).run list) = .error (.panic cause) ↔
      call = terminated ∧ capacity = 0 ∧ cause = .indexOutOfBounds 0 0 := by
  by_cases plain : call = terminated
  · subst plain
    simp only [performListed, BoundedList.terminated, EStateM.run]
    by_cases hzero : capacity = 0
    · simp [hzero, answerOf, eq_comm]
    · simp [hzero, answerOf]
  · exact iff_of_false (Call.panicFree plain list cause) fun h => plain h.1

end PathBuffer

/-! ## The room for a path -/

/-- If what comes after a sum overflows, so does all of it, for the sum may only overflow itself. -/
theorem Word.add_bind_eq_error {a b : Nat} {next : Nat → Except Panic Nat}
    (h : next (a + b) = .error .additionOverflow) :
    (Word.add a b >>= next) = .error .additionOverflow := by
  unfold Word.add
  split
  · exact h
  · rfl

namespace PathBuffer.Checked

theorem requiredUnits_of_lt {length : Nat} (h : length + 42 < Word.limit) :
    Checked.requiredUnits length = .ok (CrashDump.requiredUnits length) := by
  have hid : idLength = 36 := rfl
  have hextension : extension.length = 4 := rfl
  unfold Checked.requiredUnits
  rw [Word.add_eq_ok (by omega)]
  show (Word.add (length + 1) idLength >>= _) = _
  rw [Word.add_eq_ok (by omega)]
  show (Word.add (length + 1 + idLength) extension.length >>= _) = _
  rw [Word.add_eq_ok (by omega)]
  show Word.add (length + 1 + idLength + extension.length) 1 = _
  rw [Word.add_eq_ok (by omega)]
  rfl

theorem requiredUnits_of_le {length : Nat} (h : Word.limit ≤ length + 42) :
    Checked.requiredUnits length = .error .additionOverflow :=
  Word.add_bind_eq_error <| Word.add_bind_eq_error <| Word.add_bind_eq_error <|
    Word.add_eq_error h

/-- The room for a path overflows a word for the 42 greatest lengths that a word holds. -/
theorem requiredUnits_eq_error_iff {length : Nat} :
    Checked.requiredUnits length = .error .additionOverflow ↔ Word.limit - 43 < length := by
  have hlimit : Word.limit = 0x10000000000000000 := rfl
  rcases Nat.lt_or_ge (length + 42) Word.limit with hlt | hge
  · rw [requiredUnits_of_lt hlt]
    exact iff_of_false (fun h => nomatch h) (by omega)
  · rw [requiredUnits_of_le hge]
    exact iff_of_true rfl (by omega)

/-- The room for the path of a dump in any directory that lies in memory fits in a word. -/
theorem add_lt_limit_of_le {length : Nat} (short : length ≤ Word.maxLength) :
    length + 42 < Word.limit := by
  have hlimit : Word.limit = 0x10000000000000000 := rfl
  have hmax : Word.maxLength = 0x7FFFFFFFFFFFFFFF := rfl
  omega

end PathBuffer.Checked

end CrashDump
