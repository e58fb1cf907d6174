/-!
# Edits that match

Two kinds of state may keep the same thing in different ways.  An edit of the one matches an edit of
the other if both, from states that keep the same, answer the same or stop for the same cause, and
leave states that keep the same again.

* `Alike` and `Matches`: what matching means, for outcomes and for edits.
* `Matches.bind` and `Matches.trans`: edits that match step by step match, and so do edits that
  match a third.
* `answerAll`: edits one after the other, of which some may stop.
* `answerAll_alike`: if each of them matches, so does the run.
-/

namespace CrashDump

variable {ε δ S T W A B C : Type}

/-! ## One edit -/

/-- The same answer or the same cause, and states that keep the same. -/
inductive Alike (keeps : S → T → Prop) :
    EStateM.Result ε S A → EStateM.Result ε T A → Prop where
  | ok (answer : A) {first : S} {second : T} (kept : keeps first second) :
    Alike keeps (.ok answer first) (.ok answer second)
  | error (cause : ε) {first : S} {second : T} (kept : keeps first second) :
    Alike keeps (.error cause first) (.error cause second)

/-- Outcomes are the same if the states are. -/
theorem Alike.eq {same : S → S → Prop} {outcome other : EStateM.Result ε S A}
    (h : Alike same outcome other) (states : ∀ {first second}, same first second → first = second) :
    outcome = other := by
  cases h with
  | ok answer kept => rw [states kept]
  | error cause kept => rw [states kept]

/-- From states that keep the same, the edits have outcomes alike. -/
def Matches (keeps : S → T → Prop) (edit : EStateM ε S A) (other : EStateM ε T A) : Prop :=
  ∀ first second, keeps first second → Alike keeps (edit.run first) (other.run second)

variable {keeps : S → T → Prop} {keepsToo : T → W → Prop} {keepsBoth : S → W → Prop}

theorem Matches.pure (answer : A) :
    Matches keeps (Pure.pure answer : EStateM ε S A) (Pure.pure answer) :=
  fun _ _ kept => .ok answer kept

/-- Edits match if they do so step by step. -/
theorem Matches.bind {edit : EStateM ε S A} {other : EStateM ε T A} {next : A → EStateM ε S B}
    {otherNext : A → EStateM ε T B} (head : Matches keeps edit other)
    (tail : ∀ answer, Matches keeps (next answer) (otherNext answer)) :
    Matches keeps (edit >>= next) (other >>= otherNext) := by
  intro first second kept
  rw [EStateM.run_bind, EStateM.run_bind]
  have houtcome := head first second kept
  generalize edit.run first = outcome, other.run second = otherOutcome at houtcome
  cases houtcome with
  | ok answer kept => exact tail answer _ _ kept
  | error cause kept => exact .error cause kept

/-- What matches a third by way of a second. -/
theorem Matches.trans {edit : EStateM ε S A} {other : EStateM ε T A} {third : EStateM ε W A}
    (one : Matches keeps edit other) (two : Matches keepsToo other third)
    (both : ∀ first last,
      keepsBoth first last ↔ ∃ between, keeps first between ∧ keepsToo between last) :
    Matches keepsBoth edit third := by
  intro first last kept
  obtain ⟨between, hone, htwo⟩ := (both first last).mp kept
  have hone := one first between hone
  have htwo := two between last htwo
  generalize edit.run first = outcome, other.run between = middle, third.run last = lastOutcome
    at hone htwo
  cases hone with
  | ok answer one =>
    cases htwo with
    | ok _ two => exact .ok answer ((both _ _).mpr ⟨_, one, two⟩)
  | error cause one =>
    cases htwo with
    | error _ two => exact .error cause ((both _ _).mpr ⟨_, one, two⟩)

/-- Renaming the causes for which the parts of an edit stop renames those for which it stops. -/
theorem adaptExcept_bind (rename : ε → δ) (edit : EStateM ε S A) (next : A → EStateM ε S B) :
    EStateM.adaptExcept rename (edit >>= next) =
      EStateM.adaptExcept rename edit >>= fun answer => EStateM.adaptExcept rename (next answer) := by
  funext state
  show (EStateM.adaptExcept rename (edit >>= next)).run state = EStateM.run _ state
  rw [EStateM.run_adaptExcept, EStateM.run_bind, EStateM.run_bind, EStateM.run_adaptExcept]
  cases edit.run state with
  | ok answer state =>
    dsimp only
    rw [EStateM.run_adaptExcept]
  | error cause state => rfl

/-- An edit that does as one that succeeds, succeeds. -/
theorem Alike.exists_ok {rename : δ → ε} {edit : EStateM δ S A} {state : S} {answer : A} {last : T}
    (h : Alike keeps ((EStateM.adaptExcept rename edit).run state) (.ok answer last)) :
    ∃ after, edit.run state = .ok answer after ∧ keeps after last := by
  rw [EStateM.run_adaptExcept] at h
  cases hrun : edit.run state with
  | ok given after =>
    rw [hrun] at h
    cases h with
    | ok _ kept => exact ⟨after, rfl, kept⟩
  | error cause after =>
    rw [hrun] at h
    cases h

/-- One that does as an edit that stops, stops. -/
theorem Alike.exists_error {rename : δ → ε} {edit : EStateM δ S A} {state : S} {cause : ε} {last : T}
    (h : Alike keeps ((EStateM.adaptExcept rename edit).run state) (.error cause last)) :
    ∃ own after, edit.run state = .error own after ∧ rename own = cause ∧ keeps after last := by
  rw [EStateM.run_adaptExcept] at h
  cases hrun : edit.run state with
  | ok given after =>
    rw [hrun] at h
    cases h
  | error own after =>
    rw [hrun] at h
    cases h with
    | error _ kept => exact ⟨own, after, rfl, rfl, kept⟩

/-! ## Runs of edits -/

/-- Makes edits one after the other, each in the state that the one before left, also when that one
stopped: what each answers, and the state at the end. -/
def answerAll : List (EStateM ε S A) → S → List (Except ε A) × S
  | [], state => ([], state)
  | edit :: rest, state =>
    match edit.run state with
    | .ok answer state =>
      let (answers, state) := answerAll rest state
      (.ok answer :: answers, state)
    | .error cause state =>
      let (answers, state) := answerAll rest state
      (.error cause :: answers, state)

/-- Edits that match one by one answer the same, and leave states that keep the same. -/
theorem answerAll_alike {calls : List C} {edit : C → EStateM ε S A} {other : C → EStateM ε T A}
    (each : ∀ call ∈ calls, Matches keeps (edit call) (other call)) {first : S} {second : T}
    (kept : keeps first second) :
    (answerAll (calls.map edit) first).1 = (answerAll (calls.map other) second).1 ∧
      keeps (answerAll (calls.map edit) first).2 (answerAll (calls.map other) second).2 := by
  induction calls generalizing first second with
  | nil => exact ⟨rfl, kept⟩
  | cons call rest ih =>
    have hrest {s t} := @ih (fun other h => each other (List.mem_cons_of_mem call h)) s t
    have houtcome := each call List.mem_cons_self first second kept
    simp only [List.map_cons, answerAll]
    generalize (edit call).run first = outcome, (other call).run second = otherOutcome at houtcome
    cases houtcome with
    | ok answer kept => exact ⟨congrArg (_ :: ·) (hrest kept).1, (hrest kept).2⟩
    | error cause kept => exact ⟨congrArg (_ :: ·) (hrest kept).1, (hrest kept).2⟩

end CrashDump
