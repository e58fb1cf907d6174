import CrashDump.Proofs.Application.Attach
import CrashDump.Proofs.RawHandles

/-!
# Where handlers are attached

Whatever the interface, a handler is attached at an address that the allocator hands out.  So no
handler is attached at the null address, and the handle that a client of the raw interface is given
is not mistaken for none.

* `attachTyped_cases`: what a typed attach is answered.
* `ne_zero_of_attached`: no attach is answered by the null address.
* `get?_zero_afterAll`: no handler is there after a run.
-/

namespace CrashDump.Application

variable {p : Platform} {app : Application p} {roster : Roster p}

theorem attachCrashEvent_cases (app : Application p) (directory : Path) (choice : HandlerChoice)
    (event : UInt64) (surroundings : Surroundings) :
    let answer := (app.attachCrashEvent directory choice event surroundings).1
    (∃ cause, answer = .error cause) ∨
      answer = .ok (app.host.nextAddress surroundings.preferred) := by
  unfold attachCrashEvent
  split
  · exact .inl ⟨_, rfl⟩
  · dsimp only
    generalize attach _ _ _ _ _ _ = result
    obtain ⟨_ | _, _, _⟩ := result
    · exact .inl ⟨_, rfl⟩
    · exact .inr rfl

/-- A client of the typed interface is answered by an error, or by the address that the allocator
hands out. -/
theorem attachTyped_cases (app : Application p) (directory : Path) (choice : HandlerChoice)
    (event : UInt64) (surroundings : Surroundings) :
    let answer := (app.attachTyped directory choice event surroundings).1
    (∃ cause, answer = .error cause) ∨
      answer = .ok (app.host.nextAddress surroundings.preferred) := by
  simp only [attachTyped]
  split
  · exact .inl ⟨_, rfl⟩
  · have h := attachCrashEvent_cases { app with typedAttached := true } directory choice event
      surroundings
    generalize attachCrashEvent _ _ _ _ _ = result at h ⊢
    obtain ⟨_ | _, _, _⟩ := result
    · exact .inl ⟨_, rfl⟩
    · exact h

/-- A handler is attached at an address that the allocator hands out. -/
theorem ne_zero_of_attached (coherent : Coherent app roster) {event : Event p} {handler : Address}
    (reply : app.replyTo event = .attached handler) : handler ≠ 0 := by
  obtain ⟨attachment, files, machine, request, -⟩ := attached_of_reply coherent reply
  cases event with
  | attachRaw pointer length function userData word surroundings =>
    have readable : ¬ (pointer = none ∧ length ≠ 0) := by
      intro h
      rw [replyTo_of_step (step_attachRaw_null h)] at reply
      cases reply
    exact ne_zero_of_owned rfl ((replyTo_attachRaw_iff readable rfl).mp reply)
  | attachOwned directory function userData options surroundings =>
    rw [eq_nextAddress_of_attachOwned reply]
    exact nextAddress_ne_zero app surroundings.preferred
  | attachTyped directory choice tag surroundings =>
    have hreply : Reply.ofTypedAttach (app.attachTyped directory choice tag surroundings).1 =
        .attached handler := reply
    rcases attachTyped_cases app directory choice tag surroundings with ⟨cause, h⟩ | h
    · rw [h] at hreply
      cases hreply
    · rw [h] at hreply
      rw [← Reply.attached.inj hreply]
      exact nextAddress_ne_zero app surroundings.preferred
  | _ => cases request

/-- No handler is attached at the null address. -/
theorem get?_zero_after (coherent : Coherent app roster) (nonnull : roster.get? 0 = none)
    (event : Event p) : (roster.after app event).get? 0 = none := by
  cases transition coherent event with
  | attached request _ _ _ _ _ reply _ _ =>
    have hne := ne_zero_of_attached coherent reply
    rw [Roster.after_of_attached reply request, Table.get?_insert_of_ne _ _ hne.symm, nonnull]
  | refused unreached _ _ _ refusal _ _ => rw [Roster.after_of_refused refusal unreached, nonnull]
  | detached ends _ _ _ reply _ _ =>
    rw [Roster.after_of_detached reply ends, Table.get?_erase, nonnull, ite_self]
  | faulted reached _ _ _ answers _ _ =>
    rw [Roster.after_of_faulted reached answers, Roster.get?_rename, nonnull]
    split
    · subst_vars
      rw [nonnull]
      rfl
    · rfl
  | abandoned hevent _ target reply _ _ =>
    rw [Roster.after_of_abandoned reply (reached?_of_free hevent target), nonnull]
  | quiet unreached _ _ _ unattached undetached _ _ =>
    rw [Roster.after_of_quiet unreached unattached undetached, nonnull]

theorem get?_zero_afterAll {app : Application p} {roster : Roster p}
    (coherent : Coherent app roster) (nonnull : roster.get? 0 = none) (events : List (Event p)) :
    (roster.afterAll app events).get? 0 = none := by
  induction events generalizing app roster with
  | nil => exact nonnull
  | cons event rest ih =>
    exact ih (coherent_after coherent event) (get?_zero_after coherent nonnull event)

end CrashDump.Application
