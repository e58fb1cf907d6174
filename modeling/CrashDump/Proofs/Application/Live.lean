import CrashDump.Proofs.Application.Run

/-!
# How long a handler stays attached

A handler stays attached, with what it was attached with, until it is detached.  Meanwhile a fault
that reaches it gives it another id for its next dump, and nothing else changes.

* `Detaches` and `Stays`: an event detaches a handler, and no event of a run does.
* `exists_get?_after` and `exists_get?_afterAll`: what becomes of the handler in a step and in a run.
-/

namespace CrashDump.Application

variable {p : Platform} {app : Application p} {roster : Roster p} {event : Event p}
  {handler : Address} {attachment : Attachment p}

/-- The event detaches the handler. -/
def Detaches (app : Application p) (event : Event p) (handler : Address) : Prop :=
  event.ended? = some handler ∧ app.replyTo event = .done

/-- None of the events of a run detaches the handler. -/
def Stays (app : Application p) (handler : Address) : List (Event p) → Prop
  | [] => True
  | event :: rest => ¬ app.Detaches event handler ∧ (app.after event).Stays handler rest

/-- A handler stays attached if nobody asks for its detach. -/
theorem stays_of_ended? {events : List (Event p)}
    (unasked : ∀ event ∈ events, event.ended? ≠ some handler) : app.Stays handler events := by
  induction events generalizing app with
  | nil => trivial
  | cons event rest ih =>
    refine ⟨fun detaches => unasked event List.mem_cons_self detaches.1, ih ?_⟩
    exact fun other h => unasked other (List.mem_cons_of_mem _ h)

theorem exists_get?_after (coherent : Coherent app roster)
    (live : roster.get? handler = some attachment) (stays : ¬ app.Detaches event handler) :
    ∃ id, (roster.after app event).get? handler = some { attachment with id } := by
  cases transition coherent event with
  | @attached address _ _ _ _ request _ free _ _ _ reply _ _ =>
    have hne : handler ≠ address := by
      intro h
      rw [h, free] at live
      cases live
    refine ⟨attachment.id, ?_⟩
    rw [Roster.after_of_attached reply request, Table.get?_insert_of_ne _ _ hne, live]
  | refused unreached _ _ _ refusal _ _ =>
    exact ⟨attachment.id, by rw [Roster.after_of_refused refusal unreached, live]⟩
  | @detached other _ _ ends _ _ _ reply _ _ =>
    have hne : handler ≠ other := by
      intro h
      exact stays ⟨h ▸ ends, reply⟩
    refine ⟨attachment.id, ?_⟩
    rw [Roster.after_of_detached reply ends, Table.get?_erase_of_ne _ hne, live]
  | @faulted other _ _ _ _ _ reached _ _ _ answers _ _ =>
    rw [Roster.after_of_faulted reached answers, Roster.get?_rename]
    by_cases h : handler = other
    · rw [if_pos h, ← h, live]
      exact ⟨app.machine.ids.next, rfl⟩
    · rw [if_neg h]
      exact ⟨attachment.id, live⟩
  | abandoned hevent _ target reply _ _ =>
    have unreached := reached?_of_free hevent target
    exact ⟨attachment.id, by rw [Roster.after_of_abandoned reply unreached, live]⟩
  | quiet unreached _ _ _ unattached undetached _ _ =>
    exact ⟨attachment.id, by rw [Roster.after_of_quiet unreached unattached undetached, live]⟩

theorem exists_get?_afterAll {events : List (Event p)} (coherent : Coherent app roster)
    (live : roster.get? handler = some attachment) (stays : app.Stays handler events) :
    ∃ id, (roster.afterAll app events).get? handler = some { attachment with id } := by
  induction events generalizing app roster attachment with
  | nil => exact ⟨attachment.id, live⟩
  | cons event rest ih =>
    obtain ⟨id, hid⟩ := exists_get?_after coherent live stays.1
    obtain ⟨later, hlater⟩ := ih (coherent_after coherent event) hid stays.2
    exact ⟨later, hlater⟩

end CrashDump.Application
