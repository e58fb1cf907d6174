import CrashDump.Proofs.Application.Transition

/-!
# Runs

In every run from an application without handlers, the application agrees with the roster that its
clients keep.

* `Roster.after_of_attached` and its like: what becomes of the roster in a step of each kind.
* `coherent_after` and `coherent_afterAll`: a step keeps the agreement, and so does a run.
-/

namespace CrashDump

variable {p : Platform} {app : Application p} {roster : Roster p} {event : Application.Event p}

/-! ## The roster after a step -/

namespace Roster

theorem after_of_attached {address : Address} {attachment : Attachment p}
    (reply : app.replyTo event = .attached address)
    (request : event.attachment? app.machine.ids.next = some attachment) :
    roster.after app event = roster.insert address attachment := by
  unfold after
  rw [reply, request]

theorem after_of_detached {handler : Address} (reply : app.replyTo event = .done)
    (ends : event.ended? = some handler) : roster.after app event = roster.erase handler := by
  unfold after
  rw [reply, ends]

theorem after_of_abandoned {before : AbortAction} {later : Option AbortAction}
    (reply : app.replyTo event = .aborted before later) (unreached : app.reached? event = none) :
    roster.after app event = roster := by
  unfold after
  rw [reply, unreached]

theorem after_of_refused (refusal : (app.replyTo event).IsRefusal)
    (unreached : app.reached? event = none) : roster.after app event = roster := by
  unfold after
  split
  · rename_i address hreply
    rw [hreply] at refusal
    exact refusal.elim
  · rename_i hreply
    rw [hreply] at refusal
    exact refusal.elim
  · rw [unreached]

theorem after_of_quiet (unreached : app.reached? event = none)
    (unattached : ∀ address, app.replyTo event ≠ .attached address)
    (undetached : app.replyTo event = .done → event.ended? = none) :
    roster.after app event = roster := by
  unfold after
  split
  · rename_i address hreply
    exact absurd hreply (unattached address)
  · rename_i hreply
    rw [undetached hreply]
  · rw [unreached]

theorem after_of_faulted {handler : Address} {handled : Bool}
    {before later : AbortSignal} (reached : app.reached? event = some handler)
    (answers : event.Answers handled (app.replyTo event) before later) :
    roster.after app event = roster.rename handler app.machine.ids.next := by
  unfold after
  rcases answers.reply_cases with ⟨_, hreply⟩ | ⟨_, _, hreply⟩ <;> simp only [hreply, reached]

end Roster

/-! ## Agreement -/

namespace Application

/-- A step keeps the agreement. -/
theorem coherent_after (coherent : Coherent app roster) (event : Event p) :
    Coherent (app.after event) (roster.after app event) := by
  rcases transition coherent event with
    ⟨request, -, free, fits, alone, hooked, hreply, hafter, -⟩ |
    ⟨unreached, -, -, -, refusal, hafter, -⟩ | ⟨ends, live, nodup, registered, hreply, hafter, -⟩ |
    ⟨reached, live, -, serves, answers, hafter, -⟩ | ⟨hevent, haction, htarget, hreply, hafter, -⟩ |
    ⟨unreached, -, -, -, unattached, undetached, hafter, -⟩
  case attached address attachment files machine logs =>
    rw [hafter, Roster.after_of_attached hreply request]
    have prepared : Coherent
        (app.setMachine { app.machine with files, ids := app.machine.ids.advance }) roster :=
      coherent.setMachine rfl rfl (.inr ⟨rfl, rfl⟩)
    exact prepared.enrol free fits alone hooked
  case refused =>
    rw [hafter, Roster.after_of_refused refusal unreached]
    exact coherent.setMachine rfl rfl (.inr ⟨rfl, rfl⟩)
  case detached handler attachment registry =>
    rw [hafter, Roster.after_of_detached hreply ends]
    exact coherent.dismiss live nodup registered
  case faulted handler attachment crash outcome target abortSignal =>
    rw [hafter, Roster.after_of_faulted reached answers]
    refine coherent.settle _ live serves ?_
    unfold Event.Answers at answers
    split at answers
    · left
      rw [answers.1]
      exact AbortSignal.target_afterDump ..
    · rw [answers.1]
      exact .inr ⟨rfl, rfl⟩
  case abandoned task thread outcome =>
    rw [hafter, Roster.after_of_abandoned hreply (reached?_of_free hevent htarget)]
    exact coherent.setMachine rfl rfl (.inr ⟨rfl, rfl⟩)
  case quiet =>
    rw [hafter, Roster.after_of_quiet unreached unattached undetached]
    exact coherent.setMachine rfl rfl (.inr ⟨rfl, rfl⟩)

/-- A run keeps the agreement. -/
theorem coherent_afterAll {app : Application p} {roster : Roster p}
    (coherent : Coherent app roster) (events : List (Event p)) :
    Coherent (app.afterAll events) (roster.afterAll app events) := by
  induction events generalizing app roster with
  | nil => exact coherent
  | cons event rest ih => exact ih (coherent_after coherent event)

/-! ## Runs from the start -/

/-- The application after a run that starts without handlers. -/
def afterRun (files : FileSystem) (ids : IdSource) (events : List (Event p)) : Application p :=
  (initial p files ids).afterAll events

end Application

/-- The handlers that clients know of after a run that starts without any. -/
def Roster.afterRun (files : FileSystem) (ids : IdSource)
    (events : List (Application.Event p)) : Roster p :=
  Roster.afterAll .empty (.initial p files ids) events

namespace Application

theorem afterAll_append (app : Application p) (first second : List (Event p)) :
    app.afterAll (first ++ second) = (app.afterAll first).afterAll second := by
  induction first generalizing app with
  | nil => rfl
  | cons event rest ih => exact ih (app.after event)

theorem roster_afterAll_append (app : Application p) (roster : Roster p)
    (first second : List (Event p)) :
    roster.afterAll app (first ++ second) =
      (roster.afterAll app first).afterAll (app.afterAll first) second := by
  induction first generalizing app roster with
  | nil => rfl
  | cons event rest ih => exact ih (app.after event) (roster.after app event)

theorem coherent_afterRun (files : FileSystem) (ids : IdSource) (events : List (Event p)) :
    Coherent (afterRun files ids events) (.afterRun files ids events) :=
  coherent_afterAll (coherent_initial p files ids) events

end Application

end CrashDump
