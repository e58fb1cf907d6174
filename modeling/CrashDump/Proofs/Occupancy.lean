import CrashDump.Proofs.AbortSteps
import CrashDump.Proofs.Application.Attach
import CrashDump.Proofs.Application.Live
import Mathlib.Logic.ExistsUnique

/-!
# What the attached handlers take up

A process has one crash handler, one place for a typed handler, and the cells of `SIGABRT`.  In
every run these are taken exactly by handlers that are attached: nothing is left behind, and nothing
is taken twice.

* `Attachment.HoldsCrashHandler`, `Attachment.HooksAbort` and `Attachment.IsTyped`: what a handler
  takes up.
* `Balanced`: the cells of the process say what the attached handlers take up.
* `owed_after` and `owed_afterAll`: an action of `SIGABRT` that is kept is owed by one of them.
* `occupancy_afterRun`: the balance, which attaches succeed, and what is left in the end.
-/

namespace CrashDump

variable {p : Platform}

/-! ## What a handler takes up -/

namespace Attachment

variable {attachment : Attachment p}

/-- The handler holds the crash handler of the process.  On mac that has to be asked for. -/
def HoldsCrashHandler (attachment : Attachment p) : Prop :=
  p = .mac → attachment.options.exceptionHandler = true

/-- The handler was attached on mac, for `SIGABRT` and not for exceptions. -/
def HooksAbort (attachment : Attachment p) : Prop :=
  p = .mac ∧ attachment.options.signalHandler = true ∧
    attachment.options.exceptionHandler = false

/-- The handler was attached by way of the typed interface. -/
def IsTyped (attachment : Attachment p) : Prop := attachment.event? ≠ none

theorem source_eq_crashHandler_iff :
    attachment.source = some .crashHandler ↔ attachment.HoldsCrashHandler := by
  obtain ⟨directory, client, ⟨exceptionHandler, signalHandler⟩, id⟩ := attachment
  unfold source HoldsCrashHandler FaultSource.ofOptions?
  cases p with
  | linux => simp
  | mac => cases exceptionHandler <;> cases signalHandler <;> simp
  | windows => simp

theorem source_eq_abortSignal_iff :
    attachment.source = some .abortSignal ↔ attachment.HooksAbort := by
  obtain ⟨directory, client, ⟨exceptionHandler, signalHandler⟩, id⟩ := attachment
  unfold source HooksAbort FaultSource.ofOptions?
  cases p with
  | linux => simp
  | mac => cases exceptionHandler <;> cases signalHandler <;> simp
  | windows => simp

end Attachment

/-- A handler with a property is attached at the address. -/
def Roster.Has (roster : Roster p) (property : Attachment p → Prop) (address : Address) : Prop :=
  ∃ attachment, roster.get? address = some attachment ∧ property attachment

namespace Application

variable {app : Application p} {roster : Roster p} {event : Event p}

/-! ## The action that is kept -/

/-- While an action of `SIGABRT` is kept, a handler is attached that is to put it back. -/
def Owed (app : Application p) (roster : Roster p) : Prop :=
  app.machine.abortSignal.saved ≠ none → ∃ address, roster.Has Attachment.HooksAbort address

/-- Unless the event detaches it, a handler that hooked `SIGABRT` is attached after it. -/
theorem owed_of_saved (coherent : Coherent app roster) (owed : Owed app roster)
    (saved : (app.after event).machine.abortSignal.saved = app.machine.abortSignal.saved)
    (spared : ¬ Unhooks app roster event) :
    Owed (app.after event) (roster.after app event) := by
  intro h
  rw [saved] at h
  obtain ⟨handler, attachment, live, hooks⟩ := owed h
  have source := Attachment.source_eq_abortSignal_iff.mpr hooks
  have stays : ¬ app.Detaches event handler := by
    rintro ⟨ends, reply⟩
    exact spared ⟨handler, attachment, ends, reply, live, source⟩
  obtain ⟨id, hid⟩ := exists_get?_after coherent live stays
  exact ⟨handler, _, hid, hooks⟩

/-- A step keeps what is owed. -/
theorem owed_after (coherent : Coherent app roster) (owed : Owed app roster) (event : Event p) :
    Owed (app.after event) (roster.after app event) := by
  cases abortStep coherent event with
  | kept spared hlater => exact owed_of_saved coherent owed (by rw [hlater]) spared.not_unhooks
  | @hooked handler attachment live source =>
    intro _
    exact ⟨handler, attachment, live, Attachment.source_eq_abortSignal_iff.mp source⟩
  | restored _ _ hlater =>
    intro h
    rw [hlater] at h
    exact absurd (AbortSignal.saved_restore _) h
  | @dumped handled spared _ hlater =>
    rcases AbortSignal.saved_afterDump app.machine.abortSignal handled with hkept | hnone
    · exact owed_of_saved coherent owed (by rw [hlater, hkept]) spared.not_unhooks
    · intro h
      rw [hlater] at h
      exact absurd hnone h
  | abandoned spared _ _ hlater => exact owed_of_saved coherent owed (by rw [hlater]) spared.not_unhooks
  | set _ spared hlater => exact owed_of_saved coherent owed (by rw [hlater]) spared.not_unhooks

theorem owed_afterAll (coherent : Coherent app roster) (owed : Owed app roster)
    (events : List (Event p)) : Owed (app.afterAll events) (roster.afterAll app events) := by
  induction events generalizing app roster with
  | nil => exact owed
  | cons event rest ih => exact ih (coherent_after coherent event) (owed_after coherent owed event)

/-! ## The balance -/

/-- The cells of the process say what the attached handlers take up. -/
structure Balanced (app : Application p) (roster : Roster p) : Prop where
  /-- The crash handler of the process is set up while just one handler holds it. -/
  crashHandler : app.machine.crashHandler ≠ none ↔
    ∃! address, roster.Has Attachment.HoldsCrashHandler address
  /-- There are never two that hold it. -/
  lone : ∀ a b, roster.Has Attachment.HoldsCrashHandler a →
    roster.Has Attachment.HoldsCrashHandler b → a = b
  typedAttached : app.typedAttached = true ↔ ∃! address, roster.Has Attachment.IsTyped address
  /-- While the hook for `SIGABRT` has a target, the action before it is kept. -/
  saved : app.machine.abortSignal.target ≠ none → app.machine.abortSignal.saved ≠ none
  owed : Owed app roster

theorem Coherent.crashHandler_eq_some_iff (coherent : Coherent app roster) {address : Address} :
    app.machine.crashHandler = some address ↔
      roster.Has Attachment.HoldsCrashHandler address := by
  rw [coherent.crashHandler]
  unfold Roster.Has
  simp only [Attachment.source_eq_crashHandler_iff]

theorem Coherent.balanced (coherent : Coherent app roster) (owed : Owed app roster) :
    Balanced app roster := by
  have lone : ∀ a b, roster.Has Attachment.HoldsCrashHandler a →
      roster.Has Attachment.HoldsCrashHandler b → a = b := by
    intro a b ha hb
    rw [← coherent.crashHandler_eq_some_iff] at ha hb
    rw [ha] at hb
    exact Option.some.inj hb
  refine ⟨?_, lone, ?_, coherent.saved, owed⟩
  · constructor
    · intro h
      obtain ⟨address, haddress⟩ := Option.ne_none_iff_exists'.mp h
      have has := coherent.crashHandler_eq_some_iff.mp haddress
      exact ⟨address, has, fun other hother => lone other address hother has⟩
    · rintro ⟨address, has, -⟩
      rw [coherent.crashHandler_eq_some_iff.mpr has]
      exact Option.some_ne_none address
  · rw [coherent.typedAttached]
    constructor
    · rintro ⟨address, attachment, live, typed⟩
      refine ⟨address, ⟨attachment, live, typed⟩, ?_⟩
      rintro other ⟨another, hother, htyped⟩
      exact coherent.typed_unique hother htyped live typed
    · rintro ⟨address, ⟨attachment, live, typed⟩, -⟩
      exact ⟨address, attachment, live, typed⟩

/-! ## Runs -/

theorem Coherent.crashHandler_eq_none_iff (coherent : Coherent app roster) :
    app.machine.crashHandler = none ↔
      ∀ address, ¬ roster.Has Attachment.HoldsCrashHandler address := by
  rw [Option.eq_none_iff_forall_ne_some]
  exact forall_congr' fun address => not_congr coherent.crashHandler_eq_some_iff

theorem Coherent.typedAttached_eq_false_iff (coherent : Coherent app roster) :
    app.typedAttached = false ↔ ∀ address, ¬ roster.Has Attachment.IsTyped address := by
  rw [← Bool.not_eq_true, coherent.typedAttached, not_exists]
  rfl

theorem owed_afterRun (files : FileSystem) (ids : IdSource) (events : List (Event p)) :
    Owed (afterRun files ids events) (.afterRun files ids events) :=
  owed_afterAll (coherent_initial p files ids) (fun h => absurd rfl h) events

/-- When no handler is attached, nothing is taken and nothing is owed. -/
theorem Balanced.of_deserted (balanced : Balanced app roster) (coherent : Coherent app roster)
    (deserted : ∀ address, roster.get? address = none) :
    app.machine.crashHandler = none ∧ app.typedAttached = false ∧
      app.machine.abortSignal.target = none ∧ app.machine.abortSignal.saved = none := by
  have hnone (property : Attachment p → Prop) (address : Address) :
      ¬ roster.Has property address := by
    rintro ⟨attachment, live, -⟩
    rw [deserted] at live
    cases live
  have hsaved : app.machine.abortSignal.saved = none := by
    by_contra h
    obtain ⟨address, has⟩ := balanced.owed h
    exact hnone _ address has
  have htarget : app.machine.abortSignal.target = none := by
    by_contra h
    exact balanced.saved h hsaved
  exact ⟨coherent.crashHandler_eq_none_iff.mpr (hnone _),
    coherent.typedAttached_eq_false_iff.mpr (hnone _), htarget, hsaved⟩

/-- In every run, the cells of the process are taken by just the handlers that are attached.  An
attach that needs the crash handler of the process succeeds if no attached handler holds it and,
for a typed one, no other is attached.  When no handler is attached any more, the cells are as they
were in the beginning, and every attach succeeds. -/
theorem occupancy_afterRun (files : FileSystem) (ids : IdSource) (events : List (Event p)) :
    let app := afterRun files ids events
    let roster := Roster.afterRun files ids events
    Balanced app roster ∧
    (∀ event attachment, event.Asks app attachment → event.refusal? = none →
      attachment.HoldsCrashHandler →
      ((∃ address, app.replyTo event = .attached address) ↔
        (∀ address, ¬ roster.Has Attachment.HoldsCrashHandler address) ∧
          (attachment.IsTyped → ∀ address, ¬ roster.Has Attachment.IsTyped address))) ∧
    ((∀ address, roster.get? address = none) →
      app.machine.crashHandler = none ∧ app.typedAttached = false ∧
        app.machine.abortSignal.target = none ∧ app.machine.abortSignal.saved = none ∧
        ∀ event attachment, event.Asks app attachment → event.refusal? = none →
          ∃ address, app.replyTo event = .attached address) := by
  intro app roster
  have coherent : Coherent app roster := coherent_afterRun files ids events
  have balanced : Balanced app roster := coherent.balanced (owed_afterRun files ids events)
  refine ⟨balanced, ?_, ?_⟩
  · intro event attachment asks unrefused holds
    rw [attached_iff coherent asks, Attachment.source_eq_crashHandler_iff.mpr holds, unrefused,
      ← coherent.crashHandler_eq_none_iff, ← coherent.typedAttached_eq_false_iff]
    constructor
    · rintro ⟨alone, -, hnone⟩
      exact ⟨hnone, alone⟩
    · rintro ⟨hnone, alone⟩
      exact ⟨alone, rfl, hnone⟩
  · intro deserted
    obtain ⟨hcrash, htyped, htarget, hsaved⟩ := balanced.of_deserted coherent deserted
    refine ⟨hcrash, htyped, htarget, hsaved, ?_⟩
    intro event attachment asks unrefused
    refine (attached_iff coherent asks).mpr ⟨fun _ => htyped, ?_⟩
    rw [unrefused]
    rcases attachment.source with _ | _ | _
    · trivial
    · exact ⟨rfl, hcrash⟩
    · exact ⟨rfl, htarget⟩

end Application

end CrashDump
