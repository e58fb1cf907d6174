import CrashDump.Proofs.Application.Draws
import Mathlib.Data.List.Forall2

/-!
# What of an option word counts

An attach looks at no more of its options than which fault source they select.  So the options of
attaches can be exchanged in a run, without anybody noticing, for others that select alike.

* `SelectAlike`: the two words are told apart by bits that do not count.
* `attach_congr`: an attach is the same under options that select the same source.
* `Event.Reworded`: an event with another option word.
* `step_reworded` and `run_reworded`: it is the same step, and a run of such events is the same run.
-/

namespace CrashDump

variable {p : Platform} {word other : UInt32}

/-! ## Words -/

/-- On mac the two lowest bits of the words are the same.  Elsewhere they may be any words. -/
def SelectAlike (p : Platform) (word other : UInt32) : Prop :=
  p = .mac → other &&& 3 = word &&& 3

/-- Only the two lowest bits are read. -/
theorem InstallOptions.ofWord_and_three (word : UInt32) : ofWord (word &&& 3) = ofWord word := by
  have hlow : word &&& 3 &&& 1 = word &&& 1 := UInt32.and_assoc ..
  have hhigh : word &&& 3 &&& 2 = word &&& 2 := UInt32.and_assoc ..
  unfold ofWord
  rw [hlow, hhigh]

theorem FaultSource.ofOptions?_ofWord (alike : SelectAlike p word other) :
    ofOptions? p (.ofWord other) = ofOptions? p (.ofWord word) := by
  cases p with
  | linux => rfl
  | mac =>
    rw [← InstallOptions.ofWord_and_three other, alike rfl, InstallOptions.ofWord_and_three]
  | windows => rfl

namespace Application

variable {app : Application p}

/-! ## Steps -/

section

variable {options others : InstallOptions}
  (same : FaultSource.ofOptions? p others = FaultSource.ofOptions? p options)
include same

/-- It is the selected source alone that is hooked. -/
theorem attach_congr (address : Address) (directory : List p.PathUnit) (context : HandlerContext)
    (refusal : Option Refusal) :
    app.attach address directory context others refusal =
      app.attach address directory context options refusal := by
  simp only [attach, Host.attach, Machine.installer, Machine.install, same]

theorem attachOwned_congr (directory : List p.PathUnit) (context : HandlerContext)
    (surroundings : Surroundings) :
    app.attachOwned directory context others surroundings =
      app.attachOwned directory context options surroundings := by
  simp only [attachOwned, attach_congr same]

theorem attachRaw_congr (pointer : Option (List p.PathUnit)) (length : Nat)
    (context : HandlerContext) (surroundings : Surroundings) :
    app.attachRaw pointer length context others surroundings =
      app.attachRaw pointer length context options surroundings := by
  simp only [attachRaw, attachOwned_congr same]

end

theorem attachTyped_congr {choice another : HandlerChoice}
    (same : FaultSource.ofOptions? p another.options = FaultSource.ofOptions? p choice.options)
    (directory : Path) (event : UInt64) (surroundings : Surroundings) :
    app.attachTyped directory another event surroundings =
      app.attachTyped directory choice event surroundings := by
  simp only [attachTyped, attachCrashEvent, attach_congr same]

/-- The second event is the first one, but an attach may have another option word, or other
options, that select alike. -/
inductive Event.Reworded : Event p → Event p → Prop where
  | attachRaw {pointer : Option (List p.PathUnit)} {length function : Nat} {userData : UInt64}
      {word other : UInt32} {surroundings : Surroundings} (alike : SelectAlike p word other) :
      Reworded (.attachRaw pointer length function userData word surroundings)
        (.attachRaw pointer length function userData other surroundings)
  | attachOwned {directory : List p.PathUnit} {function : Nat} {userData : UInt64}
      {options others : InstallOptions} {surroundings : Surroundings}
      (alike : SelectAlike p options.toWord others.toWord) :
      Reworded (.attachOwned directory function userData options surroundings)
        (.attachOwned directory function userData others surroundings)
  | attachTyped {directory : Path} {choice another : HandlerChoice} {event : UInt64}
      {surroundings : Surroundings} (alike : SelectAlike p choice.word another.word) :
      Reworded (.attachTyped directory choice event surroundings)
        (.attachTyped directory another event surroundings)
  | refl (event : Event p) : Reworded event event

theorem step_reworded {event another : Event p} (reworded : event.Reworded another) :
    app.step another = app.step event := by
  cases reworded with
  | attachRaw alike =>
    simp only [step, attachRaw_congr (FaultSource.ofOptions?_ofWord alike)]
  | @attachOwned _ _ _ options others _ alike =>
    have same := FaultSource.ofOptions?_ofWord alike
    rw [InstallOptions.ofWord_toWord, InstallOptions.ofWord_toWord] at same
    simp only [step, attachOwned_congr same]
  | attachTyped alike =>
    simp only [step, attachTyped_congr (FaultSource.ofOptions?_ofWord alike)]
  | refl => rfl

/-! ## Runs -/

/-- A run has the same answers and traces and ends in the same application, whatever is chosen
among options that select alike. -/
theorem run_reworded {events others : List (Event p)}
    (reworded : List.Forall₂ Event.Reworded events others) : app.run others = app.run events := by
  induction reworded generalizing app with
  | nil => rfl
  | cons first _ ih =>
    simp only [run, step_reworded first, ih]

end Application

end CrashDump
