import CrashDump.Proofs.Application.Draws

/-!
# The choices of the allocator

An allocator prefers some address for each handler, and hands out another one if it may not hand
out that one.  What it hands out can be written down as its preference, and the run is the same.
So runs of different applications can be compared in which it makes the same choices.

* `Event.preferred?`: the address that is preferred for a handler.
* `pin` and `pinned`: an event, and a run, with the addresses written down that are handed out.
* `step_pin` and `run_pinned`: they are the same step and the same run.
-/

namespace CrashDump.Application

variable {p : Platform} {app : Application p} {address : Address}

/-- The address that the allocator prefers for the handler of an attach. -/
def Event.preferred? : Event p → Option Address
  | .attachRaw _ _ _ _ _ surroundings => some surroundings.preferred
  | .attachOwned _ _ _ _ surroundings => some surroundings.preferred
  | .attachTyped _ _ _ surroundings => some surroundings.preferred
  | _ => none

/-! ## The address of a handler -/

/-- An address that an allocator hands out is free. -/
theorem get?_contexts_nextAddress (app : Application p) (preferred : Address) :
    app.host.contexts.get? (app.host.nextAddress preferred) = none := by
  have hfree := Address.allocate_not_mem preferred app.host.contexts.keys
  rw [Table.mem_keys_iff, Classical.not_not] at hfree
  exact hfree

theorem nextAddress_ne_zero (app : Application p) (preferred : Address) :
    app.host.nextAddress preferred ≠ 0 :=
  Address.allocate_ne_zero preferred app.host.contexts.keys

/-- An address that may be handed out is handed out if it is preferred. -/
theorem nextAddress_of_free (nonnull : address ≠ 0)
    (free : app.host.contexts.get? address = none) : app.host.nextAddress address = address := by
  refine Address.allocate_of_free nonnull ?_
  rw [Table.mem_keys_iff, Classical.not_not]
  exact free

/-- What is handed out would be handed out if it were preferred. -/
theorem nextAddress_nextAddress (app : Application p) (preferred : Address) :
    app.host.nextAddress (app.host.nextAddress preferred) = app.host.nextAddress preferred :=
  nextAddress_of_free (nextAddress_ne_zero app preferred) (get?_contexts_nextAddress app preferred)

/-! ## Steps -/

/-- The event with the address preferred that is handed out. -/
def pin (app : Application p) : Event p → Event p
  | .attachRaw pointer length function userData word surroundings =>
    .attachRaw pointer length function userData word
      { surroundings with preferred := app.host.nextAddress surroundings.preferred }
  | .attachOwned directory function userData options surroundings =>
    .attachOwned directory function userData options
      { surroundings with preferred := app.host.nextAddress surroundings.preferred }
  | .attachTyped directory choice event surroundings =>
    .attachTyped directory choice event
      { surroundings with preferred := app.host.nextAddress surroundings.preferred }
  | event => event

theorem preferred?_pin (app : Application p) (event : Event p) :
    (app.pin event).preferred? = event.preferred?.map app.host.nextAddress := by
  cases event <;> rfl

theorem ended?_pin (app : Application p) (event : Event p) :
    (app.pin event).ended? = event.ended? := by
  cases event <;> rfl

/-- Writing the address down makes no difference. -/
theorem step_pin (app : Application p) (event : Event p) :
    app.step (app.pin event) = app.step event := by
  cases event with
  | attachRaw pointer length function userData word surroundings =>
    simp only [pin, step, attachRaw, attachOwned, nextAddress_nextAddress]
  | attachOwned directory function userData options surroundings =>
    simp only [pin, step, attachOwned, nextAddress_nextAddress]
  | attachTyped directory choice event surroundings =>
    have hsame (files : FileSystem) :
        (setFiles { app with typedAttached := true } files).host.nextAddress
            (app.host.nextAddress surroundings.preferred) =
          (setFiles { app with typedAttached := true } files).host.nextAddress
            surroundings.preferred :=
      nextAddress_nextAddress app surroundings.preferred
    simp only [pin, step, attachTyped, attachCrashEvent, hsame]
  | _ => rfl

/-! ## Runs -/

/-- The events of a run, with the addresses preferred that are handed out in it. -/
def pinned (app : Application p) : List (Event p) → List (Event p)
  | [] => []
  | event :: rest => app.pin event :: (app.after event).pinned rest

/-- Writing the addresses down makes no difference. -/
theorem run_pinned (app : Application p) (events : List (Event p)) :
    app.run (app.pinned events) = app.run events := by
  induction events generalizing app with
  | nil => rfl
  | cons event rest ih =>
    have hafter : app.after (app.pin event) = app.after event := after_of_step (step_pin app event)
    have hreply : app.replyTo (app.pin event) = app.replyTo event :=
      replyTo_of_step (step_pin app event)
    have hseen : app.seen (app.pin event) = app.seen event := seen_of_step (step_pin app event)
    rw [pinned, run_cons, run_cons, hafter, hreply, hseen, ih]

end CrashDump.Application
