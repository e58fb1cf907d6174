import CrashDump.Proofs.Occupancy

/-!
# The action that comes back

When the last handler that hooked `SIGABRT` is gone, the action should be the one that was there
before the first.  There is one cell that keeps it.  A handled abort leaves the cell as it is and
sets the default action, so that the next handler finds that one and keeps it instead: the action
from before is forgotten.

* `AbortSignal.Remembers`: some action is in place or kept to come back.
* `Forgets` and `ForgetsIn`: an event, or one in a run, overwrites the action that is kept.
* `remembers_after` and `remembers_afterAll`: what is remembered after a step and after a run.
* `action_afterRun_iff`: the action comes back exactly if it is the default or was not forgotten.
-/

namespace CrashDump

variable {p : Platform}

/-! ## What is remembered -/

/-- Without the hook, the signal would have this action. -/
structure AbortSignal.Remembers (signal : AbortSignal) (action : AbortAction) : Prop where
  restore : signal.restore.action = action
  /-- It is not the hook itself. -/
  ne_hook : action ≠ .hook
  /-- An action that is kept without a hook was left by a handled abort. -/
  default : signal.target = none → signal.saved ≠ none → signal.action = .default

namespace AbortSignal

variable {signal : AbortSignal} {action : AbortAction}

theorem action_restore (saved : signal.saved = none) : signal.restore.action = signal.action := by
  rw [restore_eq, saved, Option.getD_none]

theorem remembers_of_saved (ne_hook : signal.action ≠ .hook) (saved : signal.saved = none) :
    signal.Remembers signal.action where
  restore := action_restore saved
  ne_hook := ne_hook
  default _ h := absurd saved h

theorem Remembers.action_eq (remembers : signal.Remembers action) (saved : signal.saved = none) :
    signal.action = action :=
  (action_restore saved).symm.trans remembers.restore

theorem Remembers.of_restore (remembers : signal.Remembers action) :
    signal.restore.Remembers action where
  restore := (action_restore (saved_restore signal)).trans remembers.restore
  ne_hook := remembers.ne_hook
  default _ h := absurd (saved_restore signal) h

/-- A dump that the hook asked for does not change what comes back. -/
theorem Remembers.of_afterDump (remembers : signal.Remembers action) (saved : signal.saved ≠ none)
    (handled : Bool) : (signal.afterDump handled).Remembers action := by
  cases handled with
  | false => exact remembers.of_restore
  | true =>
    refine ⟨?_, remembers.ne_hook, fun _ _ => rfl⟩
    obtain ⟨kept, hkept⟩ := Option.ne_none_iff_exists'.mp saved
    have hrestore := remembers.restore
    rw [restore_eq, hkept, Option.getD_some] at hrestore
    rw [afterDump, if_pos rfl, giveUp, restore_eq, hkept, Option.getD_some]
    exact hrestore

/-- A hook keeps the action that was in place.  It is the one that was remembered, unless an action
is kept already. -/
theorem Remembers.of_hook (remembers : signal.Remembers action) (target : Address)
    (free : signal.target = none) :
    (signal.saved = none → AbortSignal.Remembers ⟨.hook, some target, some signal.action⟩ action) ∧
      (signal.saved ≠ none →
        AbortSignal.Remembers ⟨.hook, some target, some signal.action⟩ .default) := by
  constructor
  · intro saved
    exact ⟨remembers.action_eq saved, remembers.ne_hook, fun h => nomatch h⟩
  · intro saved
    exact ⟨remembers.default free saved, by decide, fun h => nomatch h⟩

/-- The hook is not in place without a target, so that it never runs in vain. -/
theorem Remembers.target_ne_none (remembers : signal.Remembers action)
    (hook : signal.action = .hook) : signal.target ≠ none := by
  intro hnone
  by_cases saved : signal.saved = none
  · exact remembers.ne_hook (remembers.action_eq saved ▸ hook)
  · have hdefault := remembers.default hnone saved
    rw [hook] at hdefault
    cases hdefault

end AbortSignal

namespace Application

variable {app : Application p} {roster : Roster p} {event : Event p} {action : AbortAction}

/-- The event attaches a handler that hooks `SIGABRT` while an action is kept, which is lost. -/
def Forgets (app : Application p) (event : Event p) : Prop :=
  app.machine.abortSignal.saved ≠ none ∧ app.Hooking event

/-- One of the events of a run does. -/
def ForgetsIn (app : Application p) : List (Event p) → Prop
  | [] => False
  | event :: rest => app.Forgets event ∨ (app.after event).ForgetsIn rest

/-- The event leaves it to the library to set the action of `SIGABRT`. -/
def Event.LeavesAction : Event p → Prop
  | .setAbortAction _ => False
  | _ => True

/-! ## Steps and runs -/

/-- After a step the same action is remembered, unless the step made it be forgotten. -/
theorem remembers_after (coherent : Coherent app roster) (leaves : event.LeavesAction)
    (remembers : app.machine.abortSignal.Remembers action) :
    (¬ app.Forgets event → (app.after event).machine.abortSignal.Remembers action) ∧
      (app.Forgets event → (app.after event).machine.abortSignal.Remembers .default) := by
  have hkept {later : AbortSignal} (h : later.Remembers action) (hnot : ¬ app.Hooking event) :
      (¬ app.Forgets event → later.Remembers action) ∧
        (app.Forgets event → later.Remembers .default) :=
    ⟨fun _ => h, fun forgets => absurd forgets.2 hnot⟩
  cases abortStep coherent event with
  | kept spared hlater =>
    rw [hlater]
    exact hkept remembers spared.not_hooking
  | @hooked handler attachment _ _ hooking free hlater =>
    obtain ⟨hsame, hdefault⟩ := remembers.of_hook handler free
    rw [hlater]
    refine ⟨fun hnot => hsame ?_, fun forgets => hdefault forgets.1⟩
    by_contra saved
    exact hnot ⟨saved, hooking⟩
  | restored _ attached hlater =>
    rw [hlater]
    exact hkept remembers.of_restore attached
  | dumped spared taken hlater =>
    rw [hlater]
    exact hkept (remembers.of_afterDump (coherent.saved taken) _) spared.not_hooking
  | abandoned _ hook free => exact absurd free (remembers.target_ne_none hook)
  | set hevent =>
    rw [hevent] at leaves
    exact leaves.elim

/-- After a run the same action is remembered, unless one of its events made it be forgotten. -/
theorem remembers_afterAll {events : List (Event p)} (coherent : Coherent app roster)
    (leaves : ∀ event ∈ events, event.LeavesAction)
    (remembers : app.machine.abortSignal.Remembers action) :
    (¬ app.ForgetsIn events → (app.afterAll events).machine.abortSignal.Remembers action) ∧
      (app.ForgetsIn events →
        (app.afterAll events).machine.abortSignal.Remembers .default) := by
  induction events generalizing app roster action with
  | nil => exact ⟨fun _ => remembers, fun h => h.elim⟩
  | cons event rest ih =>
    obtain ⟨hsame, hdefault⟩ :=
      remembers_after coherent (leaves event List.mem_cons_self) remembers
    have hcoherent := coherent_after coherent event
    have hrest : ∀ other ∈ rest, other.LeavesAction :=
      fun other h => leaves other (List.mem_cons_of_mem _ h)
    by_cases hforgets : app.Forgets event
    · obtain ⟨hkept, hlost⟩ := ih hcoherent hrest (hdefault hforgets)
      refine ⟨fun hnot => absurd (.inl hforgets) hnot, fun _ => ?_⟩
      by_cases hlater : (app.after event).ForgetsIn rest
      · exact hlost hlater
      · exact hkept hlater
    · obtain ⟨hkept, hlost⟩ := ih hcoherent hrest (hsame hforgets)
      exact ⟨fun hnot => hkept fun h => hnot (.inr h),
        fun hin => hlost (hin.resolve_left hforgets)⟩

/-- No handler is attached that hooked `SIGABRT`. -/
def Idle (roster : Roster p) : Prop :=
  ∀ address, ¬ roster.Has Attachment.HooksAbort address

theorem saved_eq_none_of_idle (owed : Owed app roster) (idle : Idle roster) :
    app.machine.abortSignal.saved = none := by
  by_contra saved
  obtain ⟨address, has⟩ := owed saved
  exact idle address has

/-- From a time at which no handler hooks `SIGABRT`, to a later such time, with nobody but the
library setting the action in between: the action is the same again exactly if it was the default
one, or no attach made it be forgotten. -/
theorem action_afterRun_iff (files : FileSystem) (ids : IdSource)
    (earlier later : List (Event p))
    (before : Idle (.afterRun files ids earlier))
    (ne_hook : (afterRun files ids earlier).machine.abortSignal.action ≠ .hook)
    (leaves : ∀ event ∈ later, event.LeavesAction)
    (afterwards : Idle (.afterRun files ids (earlier ++ later))) :
    (afterRun files ids (earlier ++ later)).machine.abortSignal.action =
        (afterRun files ids earlier).machine.abortSignal.action ↔
      (afterRun files ids earlier).machine.abortSignal.action = .default ∨
        ¬ (afterRun files ids earlier).ForgetsIn later := by
  have coherent : Coherent (afterRun files ids earlier) (.afterRun files ids earlier) :=
    coherent_afterRun files ids earlier
  have remembers := AbortSignal.remembers_of_saved ne_hook
    (saved_eq_none_of_idle (owed_afterRun files ids earlier) before)
  obtain ⟨hkept, hlost⟩ := remembers_afterAll coherent leaves remembers
  have saved := saved_eq_none_of_idle (owed_afterRun files ids (earlier ++ later)) afterwards
  have happ : afterRun files ids (earlier ++ later) =
      (afterRun files ids earlier).afterAll later := afterAll_append ..
  rw [happ] at saved ⊢
  by_cases hforgets : (afterRun files ids earlier).ForgetsIn later
  · rw [(hlost hforgets).action_eq saved]
    constructor
    · intro h
      exact .inl h.symm
    · intro h
      exact (h.resolve_right (not_not_intro hforgets)).symm
  · exact iff_of_true ((hkept hforgets).action_eq saved) (.inr hforgets)

section

/-- A client sets its own action for `SIGABRT`, and then only the library does. -/
def afterClient (later : List (Event .mac)) : Application .mac :=
  afterRun (.ofWorkingDirectory []) (.fromSeed 0) ([.setAbortAction .client] ++ later)

/-- What is attached then. -/
def rosterAfterClient (later : List (Event .mac)) : Roster .mac :=
  .afterRun (.ofWorkingDirectory []) (.fromSeed 0) ([.setAbortAction .client] ++ later)

/-- One handler, whose abort is handled before it goes. -/
def lone : List (Event .mac) := [hooking 1 0x10, .abort 100 101 .written, .drop 0x10]

/-- Two handlers, of which the second comes after the abort of the first. -/
def overlapping : List (Event .mac) :=
  [hooking 1 0x10, .abort 100 101 .written, hooking 2 0x20, .drop 0x20, .drop 0x10]

/-- When the one handler is gone, the client has its action back. -/
theorem action_lone : (afterClient lone).machine.abortSignal.action = .client := by
  have idle (later : List (Event .mac)) (h : rosterAfterClient later = .empty) :
      Idle (rosterAfterClient later) := by
    rintro address ⟨attachment, live, -⟩
    rw [h] at live
    cases live
  have leaves : ∀ event ∈ lone, event.LeavesAction := by
    intro event h
    simp only [lone, List.mem_cons, List.not_mem_nil, or_false] at h
    rcases h with rfl | rfl | rfl <;> trivial
  refine (action_afterRun_iff (.ofWorkingDirectory []) (.fromSeed 0) [.setAbortAction .client] lone
    (idle [] rfl) (by decide) leaves (idle lone rfl)).mpr (.inr ?_)
  rintro (⟨saved, -⟩ | ⟨-, handler, -, reply, -⟩ | ⟨-, handler, -, reply, -⟩ | h)
  · exact saved rfl
  · cases reply
  · cases reply
  · exact h

/-- When the two handlers are gone, it has not: the second one kept the default action instead, and
`SIGABRT` ends the process. -/
theorem not_action_overlapping :
    (afterClient []).machine.abortSignal.action = .client ∧
      rosterAfterClient [] = .empty ∧ rosterAfterClient overlapping = .empty ∧
      (∀ event ∈ overlapping, event.LeavesAction) ∧
      (afterClient overlapping).machine.abortSignal.action = .default := by
  refine ⟨rfl, rfl, rfl, ?_, rfl⟩
  intro event h
  simp only [overlapping, List.mem_cons, List.not_mem_nil, or_false] at h
  rcases h with rfl | rfl | rfl | rfl | rfl <;> trivial

end

end Application

end CrashDump
