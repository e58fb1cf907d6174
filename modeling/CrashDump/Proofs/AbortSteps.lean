import CrashDump.Proofs.AbortHook

/-!
# What becomes of `SIGABRT` in a step

A step that neither attaches nor detaches a handler that hooks `SIGABRT` leaves the state of the
signal alone, unless the signal is raised or its action is set.

* `Hooking`: an event attaches a handler that hooks the signal; `Unhooks` is its counterpart.
* `Spared`: it does neither.
* `RunsHook`: an event raises the signal, and the hook runs.
* `AbortStep`: all that a step can do to the signal.
* `abortStep`: the case analysis over the kinds of steps.
-/

namespace CrashDump.Application

variable {p : Platform} {app : Application p} {roster : Roster p} {event : Event p}

/-- The event attaches a handler that hooks `SIGABRT`. -/
def Hooking (app : Application p) (event : Event p) : Prop :=
  ∃ handler attachment, app.replyTo event = .attached handler ∧
    event.attachment? app.machine.ids.next = some attachment ∧
    attachment.source = some .abortSignal

/-- The event neither attaches nor detaches a handler that hooks `SIGABRT`. -/
structure Spared (app : Application p) (roster : Roster p) (event : Event p) : Prop where
  not_hooking : ¬ app.Hooking event
  not_unhooks : ¬ Unhooks app roster event

/-- The event raises `SIGABRT`, and that runs the hook. -/
structure RunsHook (app : Application p) (event : Event p) : Prop where
  raised : ∃ task thread outcome, event = .abort task thread outcome
  action : app.machine.abortSignal.action = .hook

/-- The fault that an event brought had a dump written: the writer was asked for one, and did not
fail. -/
def Event.wrote (event : Event p) (trace : Trace p) : Bool :=
  event.fault?.any (·.2 = .written) && trace.asked ≠ []

/-- What an event makes of `SIGABRT`. -/
inductive AbortStep (app : Application p) (roster : Roster p) (event : Event p)
    (later : AbortSignal) : Prop where
  /-- Nothing. -/
  | kept (spared : app.Spared roster event)
      (later_eq : later = app.machine.abortSignal)
      (unraised : ¬ app.RunsHook event)
  /-- The hook is set for a new handler. -/
  | hooked {handler : Address} {attachment : Attachment p}
      (live : (roster.after app event).get? handler = some attachment)
      (source : attachment.source = some .abortSignal)
      (hooking : app.Hooking event)
      (free : app.machine.abortSignal.target = none)
      (later_eq : later = ⟨.hook, some handler, some app.machine.abortSignal.action⟩)
      (fresh : roster.get? handler = none)
  /-- A handler that hooked the signal is detached. -/
  | restored (unhooks : Unhooks app roster event) (attached : ¬ app.Hooking event)
      (later_eq : later = app.machine.abortSignal.restore)
  /-- The hook runs for its target. -/
  | dumped {handled : Bool} (spared : app.Spared roster event)
      (taken : app.machine.abortSignal.target ≠ none)
      (later_eq : later = app.machine.abortSignal.afterDump handled)
      (runs : app.RunsHook event)
      (handled_eq : handled = event.wrote (app.seen event))
  /-- The hook runs without a target. -/
  | abandoned (spared : app.Spared roster event)
      (hook : app.machine.abortSignal.action = .hook)
      (free : app.machine.abortSignal.target = none)
      (later_eq : later = { app.machine.abortSignal with action := .default })
      (runs : app.RunsHook event)
  /-- The client sets the action. -/
  | set {action : AbortAction} (event_eq : event = .setAbortAction action)
      (spared : app.Spared roster event)
      (later_eq : later = { app.machine.abortSignal with action })

theorem not_hooking_of_reply (h : ∀ handler, app.replyTo event ≠ .attached handler) :
    ¬ app.Hooking event := by
  rintro ⟨handler, -, hreply, -⟩
  exact h handler hreply

/-- What is answered neither like an attach nor like a detach spares the hook. -/
theorem spared_of_reply (attached : ∀ handler, app.replyTo event ≠ .attached handler)
    (done : app.replyTo event ≠ .done) : app.Spared roster event :=
  ⟨not_hooking_of_reply attached, not_unhooks_of_reply done⟩

/-- That the hook ran is answered. -/
theorem RunsHook.exists_reply (runs : app.RunsHook event) :
    ∃ action, app.replyTo event = .aborted .hook action := by
  obtain ⟨task, thread, outcome, rfl⟩ := runs.raised
  exact ⟨_, congrArg (Reply.aborted · (app.abort task thread outcome).1) runs.action⟩

/-- Without a target the hook sets the default action. -/
theorem RunsHook.action_after (runs : app.RunsHook event)
    (free : app.machine.abortSignal.target = none) :
    (app.after event).machine.abortSignal.action = .default := by
  obtain ⟨task, thread, outcome, rfl⟩ := runs.raised
  simp only [after, step, abort, abortHook, runs.action, free]
  rfl

/-- Whatever it finds, the hook has no target when it is done. -/
theorem RunsHook.target_after (runs : app.RunsHook event) :
    (app.after event).machine.abortSignal.target = none := by
  obtain ⟨task, thread, outcome, rfl⟩ := runs.raised
  simp only [after, step, abort, abortHook, runs.action]
  split
  · assumption
  · exact AbortSignal.target_afterDump ..

theorem not_runsHook_of_reply (h : ∀ action, app.replyTo event ≠ .aborted .hook action) :
    ¬ app.RunsHook event := by
  intro runs
  obtain ⟨action, hreply⟩ := runs.exists_reply
  exact h action hreply

/-- A dump is written if the writer is asked for it and does not fail. -/
theorem Event.wrote_of_asked {crash : CrashContext} {outcome : DumpOutcome} {trace : Trace p}
    {opened : Bool} (brings : event.fault? = some (crash, outcome))
    (asked : trace.asked = if opened then [crash] else []) :
    event.wrote trace = (opened && outcome = .written) := by
  unfold wrote
  rw [brings, asked]
  cases opened <;> simp

theorem abortStep (coherent : Coherent app roster) (event : Event p) :
    AbortStep app roster event (app.after event).machine.abortSignal := by
  cases transition coherent event with
  | @attached address attachment files machine logs request _ free _ _ hooked reply hafter _ =>
    have hsignal : (app.after event).machine.abortSignal = machine.abortSignal := by
      rw [hafter]
      rfl
    have hdone : ¬ Unhooks app roster event := not_unhooks_of_reply (by rw [reply]; simp)
    have hnot (h : attachment.source ≠ some .abortSignal) : ¬ app.Hooking event := by
      rintro ⟨_, another, -, hrequest, hsource⟩
      rw [request] at hrequest
      cases hrequest
      exact h hsource
    rw [hsignal]
    have hunraised : ¬ app.RunsHook event := not_runsHook_of_reply (by simp [reply])
    rcases Machine.hook_cases hooked with ⟨hsource, rfl⟩ | ⟨hsource, -, htarget, rfl⟩ |
      ⟨hsource, -, -, rfl⟩
    · exact .kept ⟨hnot (by simp [hsource]), hdone⟩ rfl hunraised
    · refine .hooked ?_ hsource ⟨address, attachment, reply, request, hsource⟩ htarget rfl free
      rw [Roster.after_of_attached reply request, Table.get?_insert_self]
    · exact .kept ⟨hnot (by simp [hsource]), hdone⟩ rfl hunraised
  | refused _ _ _ _ refusal hafter _ =>
    refine .kept (spared_of_reply ?_ ?_) (by rw [hafter]; rfl) (not_runsHook_of_reply ?_)
    · intro handler hreply
      rw [hreply] at refusal
      exact refusal
    · intro hreply
      rw [hreply] at refusal
      exact refusal
    · intro action hreply
      rw [hreply] at refusal
      exact refusal
  | @detached other attachment registry ends live _ _ reply hafter _ =>
    have hsignal : (app.after event).machine.abortSignal =
        (app.machine.unhook attachment.source).abortSignal := by
      rw [hafter]
      rfl
    have hattached : ¬ app.Hooking event := not_hooking_of_reply (by simp [reply])
    rw [hsignal]
    by_cases hsource : attachment.source = some .abortSignal
    · refine .restored ⟨other, attachment, ends, reply, live, hsource⟩ hattached ?_
      rw [hsource]
      rfl
    · refine .kept ⟨hattached, ?_⟩ ?_ (not_runsHook_of_reply (by simp [reply]))
      · rintro ⟨_, another, hends, -, hlive, hanother⟩
        rw [ends] at hends
        cases hends
        rw [live] at hlive
        cases hlive
        exact hsource hanother
      · rcases h : attachment.source with _ | _ | _
        · rfl
        · rfl
        · exact absurd h hsource
  | @faulted other attachment crash outcome target abortSignal reached live brings _ answers hafter
      hseen =>
    have hsignal : (app.after event).machine.abortSignal = abortSignal := by
      rw [hafter]
      rfl
    rw [hsignal]
    have hasked : (app.seen event).asked =
        if attachment.opens app.machine.files then [crash] else [] := by
      rw [hseen, Trace.asked_append, attachment.write_asked, attachment.asked_calls,
        List.append_nil]
    have hwrote := (attachment.write_handled crash outcome app.machine.files).trans
      (Event.wrote_of_asked brings hasked).symm
    unfold Event.Answers at answers
    split at answers
    · obtain ⟨hlater, hreply⟩ := answers
      have hook : app.machine.abortSignal.action = .hook := by
        by_contra hnot
        simp only [reached?, hnot, if_false, reduceCtorEq] at reached
      refine .dumped (spared_of_reply (by simp [hreply]) (by simp [hreply])) ?_ hlater
        ⟨⟨_, _, _, rfl⟩, hook⟩ hwrote
      intro hnone
      simp only [reached?, hnone, ite_self] at reached
      cases reached
    · obtain ⟨hlater, hreply⟩ := answers
      exact .kept (spared_of_reply (by simp [hreply]) (by simp [hreply])) hlater
        (not_runsHook_of_reply (by simp [hreply]))
  | abandoned hevent hook htarget hreply hafter _ =>
    exact .abandoned (spared_of_reply (by simp [hreply]) (by simp [hreply])) hook htarget
      (by rw [hafter]; rfl) ⟨⟨_, _, _, hevent⟩, hook⟩
  | @quiet files action unreached _ _ haction unattached undetached hafter _ =>
    have hspared : app.Spared roster event := by
      refine ⟨not_hooking_of_reply unattached, ?_⟩
      rintro ⟨_, _, hends, hdone, -⟩
      rw [undetached hdone] at hends
      cases hends
    have hsignal : (app.after event).machine.abortSignal =
        { app.machine.abortSignal with action } := by
      rw [hafter]
      rfl
    rw [hsignal]
    rcases haction with rfl | hset
    · refine .kept hspared rfl ?_
      intro runs
      have free : app.machine.abortSignal.target = none := by
        obtain ⟨task, thread, outcome, rfl⟩ := runs.raised
        simpa only [reached?, runs.action, if_true] using unreached
      have hdefault := runs.action_after free
      rw [hsignal, runs.action] at hdefault
      cases hdefault
    · exact .set hset hspared rfl

end CrashDump.Application
