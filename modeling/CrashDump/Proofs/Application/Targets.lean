import CrashDump.Proofs.Application.Run

/-!
# What all targets have in common

A target is made by an attach and given a new name by a fault.  Nothing else is done to it until it
is forgotten, so what these two establish holds of every target at all times.

* `Target.Lasting`: a property that new targets have, and that naming the next dump keeps.
* `Application.targets_after` and `Application.targets_afterRun`: it is kept by every step, and so
  it holds of all targets in every run.
* `Application.tidy_afterRun`: in every run, only attached handlers have a target.
-/

namespace CrashDump

variable {p : Platform} {P : Target p → Prop}

/-- New targets have the property, and keep it when the next dump is named. -/
structure Target.Lasting (P : Target p → Prop) : Prop where
  new : ∀ directory context id, P (.new directory context id)
  rename : ∀ target id, P target → P (target.rename id)

/-- All targets in memory have the property. -/
def Machine.Targets (P : Target p → Prop) (machine : Machine p) : Prop :=
  ∀ address target, machine.targets.get? address = some target → P target

namespace Machine.Targets

variable {machine other : Machine p}

theorem of_eq (h : machine.Targets P) (targets : other.targets = machine.targets) :
    other.Targets P := by
  intro address target
  rw [targets]
  exact h address target

theorem insert (h : machine.Targets P) {address : Address} {target : Target p} (new : P target)
    (targets : other.targets = machine.targets.insert address target) : other.Targets P := by
  intro address' target' h'
  rw [targets, Table.get?_insert] at h'
  split at h'
  · cases h'
    exact new
  · exact h _ _ h'

theorem erase (h : machine.Targets P) {address : Address}
    (targets : other.targets = machine.targets.erase address) : other.Targets P := by
  intro address' target' h'
  rw [targets, Table.get?_erase] at h'
  split at h'
  · cases h'
  · exact h _ _ h'

end Machine.Targets

namespace Application

variable {app : Application p}

/-! ## Steps -/

theorem targets_fault (lasting : Target.Lasting P) (h : app.machine.Targets P) (address : Address)
    (crash : CrashContext) (outcome : DumpOutcome) :
    (app.fault address crash outcome).2.1.machine.Targets P := by
  unfold fault Machine.fault
  cases htarget : app.machine.targets.get? address with
  | none => exact h
  | some target => exact h.insert (lasting.rename _ _ (h _ _ htarget)) rfl

/-- However a fault comes, what it does to targets is what it does to one of them. -/
theorem targets_after_of_fault? (lasting : Target.Lasting P) (h : app.machine.Targets P)
    {event : Event p} {fault : CrashContext × DumpOutcome} (brings : event.fault? = some fault) :
    (app.after event).machine.Targets P := by
  cases event with
  | simulate handler crash outcome =>
    unfold after step simulate
    dsimp only
    split
    · exact targets_fault lasting h _ _ _
    · exact h
  | crash crash outcome =>
    unfold after step Application.crash
    dsimp only
    split
    · exact h
    · exact targets_fault lasting h _ _ _
  | abort task thread outcome =>
    unfold after step abort abortHook
    cases app.machine.abortSignal.action with
    | hook =>
      dsimp only
      split
      · exact h
      · exact targets_fault lasting h _ _ _
    | default => exact h
    | ignore => exact h
    | client => exact h
  | _ => cases brings

theorem targets_after {roster : Roster p} (coherent : Coherent app roster)
    (lasting : Target.Lasting P) (h : app.machine.Targets P) (event : Event p) :
    (app.after event).machine.Targets P := by
  cases transition coherent event with
  | attached _ _ _ _ _ hooked _ after _ =>
    rw [after]
    have hhooked := (Machine.frame_hook hooked).1
    exact (h.of_eq hhooked).insert (lasting.new _ _ _) rfl
  | refused _ _ _ _ _ after _ =>
    rw [after]
    exact h.of_eq rfl
  | @detached handler attachment registry _ _ _ _ _ after _ =>
    rw [after]
    have hunhook : (app.machine.unhook attachment.source).targets = app.machine.targets := by
      rcases attachment.source with _ | _ | _ <;> rfl
    exact (h.of_eq hunhook).erase rfl
  | faulted _ _ brings _ _ _ _ => exact targets_after_of_fault? lasting h brings
  | abandoned _ _ _ _ after _ =>
    rw [after]
    exact h.of_eq rfl
  | quiet _ _ _ _ _ _ after _ =>
    rw [after]
    exact h.of_eq rfl

theorem targets_afterAll {roster : Roster p} (coherent : Coherent app roster)
    (lasting : Target.Lasting P) (h : app.machine.Targets P) (events : List (Event p)) :
    (app.afterAll events).machine.Targets P := by
  induction events generalizing app roster with
  | nil => exact h
  | cons event rest ih =>
    exact ih (coherent_after coherent event) (targets_after coherent lasting h event)

theorem targets_afterRun (lasting : Target.Lasting P) (files : FileSystem) (ids : IdSource)
    (events : List (Event p)) : (afterRun files ids events).machine.Targets P := by
  refine targets_afterAll (coherent_initial p files ids) lasting ?_ events
  intro address target h
  cases h

/-! ## No target outlives its handler -/

/-- There is a target for attached handlers only. -/
def Tidy (app : Application p) (roster : Roster p) : Prop :=
  ∀ address, roster.get? address = none → app.machine.targets.get? address = none

theorem tidy_after {roster : Roster p} (coherent : Coherent app roster) (tidy : Tidy app roster)
    (event : Event p) : Tidy (app.after event) (roster.after app event) := by
  intro other h
  cases transition coherent event with
  | @attached address attachment files machine _ request _ _ _ _ hooked reply after _ =>
    rw [Roster.after_of_attached reply request, Table.get?_insert] at h
    split at h
    · cases h
    · rename_i hne
      have htargets : machine.targets = app.machine.targets := (Machine.frame_hook hooked).1
      rw [after]
      refine (Table.get?_insert_of_ne _ _ hne).trans ?_
      rw [htargets]
      exact tidy other h
  | refused unreached _ _ _ refusal after _ =>
    rw [Roster.after_of_refused refusal unreached] at h
    rw [after]
    exact tidy other h
  | @detached handler attachment registry ends live _ _ reply after _ =>
    have hunhook : (app.machine.unhook attachment.source).targets = app.machine.targets := by
      rcases attachment.source with _ | _ | _ <;> rfl
    rw [Roster.after_of_detached reply ends, Table.get?_erase] at h
    rw [after]
    refine (Table.get?_erase _ handler other).trans ?_
    split at h
    · rw [if_pos ‹_›]
    · rw [if_neg ‹_›, hunhook]
      exact tidy other h
  | @faulted handler attachment _ _ _ _ reached live _ _ answers after _ =>
    rw [Roster.after_of_faulted reached answers, Roster.get?_rename] at h
    rw [after]
    split at h
    · rw [live] at h
      cases h
    · rename_i hne
      exact (Table.get?_insert_of_ne _ _ hne).trans (tidy other h)
  | abandoned event_eq _ target reply after _ =>
    rw [Roster.after_of_abandoned reply (reached?_of_free event_eq target)] at h
    rw [after]
    exact tidy other h
  | quiet unreached _ _ _ unattached undetached after _ =>
    rw [Roster.after_of_quiet unreached unattached undetached] at h
    rw [after]
    exact tidy other h

theorem tidy_afterAll {roster : Roster p} (coherent : Coherent app roster)
    (tidy : Tidy app roster) (events : List (Event p)) :
    Tidy (app.afterAll events) (roster.afterAll app events) := by
  induction events generalizing app roster with
  | nil => exact tidy
  | cons event rest ih =>
    exact ih (coherent_after coherent event) (tidy_after coherent tidy event)

theorem tidy_afterRun (files : FileSystem) (ids : IdSource) (events : List (Event p)) :
    Tidy (afterRun files ids events) (.afterRun files ids events) :=
  tidy_afterAll (coherent_initial p files ids) (fun _ _ => rfl) events

end Application

end CrashDump
