import CrashDump.Proofs.Occupancy

/-!
# The target of the hook for `SIGABRT`

The hook may run at any time, long after its handler is gone too: a client may keep the hook as the
action that it found, and set it again.  It finds its target in a cell of the process.  That cell
names an attached handler or none, so that the hook has a dump written for a handler that is there,
or sets the default action.  Each time the hook runs, the cell is emptied.  It names a handler for
the first time when that is attached, so that no handler is told of `SIGABRT` twice.

* `Alive`: an attached handler that hooked the signal, with what the application keeps for it.
* `abortNotices`: how often a handler is told of `SIGABRT` in a run.
* `lost_after`: a handler that is not the target does not become it.
* `abortNotices_eq_zero` and `abortNotices_le_one`: how often it is told then, and at most.
* `abortTarget_afterRun`: what the hook finds and does, in every run.
-/

namespace CrashDump

variable {p : Platform}

/-! ## Being told -/

/-- How often the context of a handler was told of a dump. -/
def Trace.notices (handler : Address) (trace : Trace p) : Nat :=
  trace.countP fun
    | .notified address _ _ => address = handler
    | _ => false

/-- To be told is to be called. -/
theorem Trace.notices_calls (handler : Address) (trace : Trace p) :
    trace.calls.notices handler = trace.notices handler := by
  unfold notices calls
  rw [List.countP_filter]
  congr 1
  funext observation
  cases observation <;> simp

/-- The calls of a handler's client tell that handler once, and no other. -/
theorem Attachment.notices_calls (attachment : Attachment p) (handler other : Address) :
    (attachment.calls handler).notices other = if handler = other then 1 else 0 := by
  unfold calls Trace.notices
  cases attachment.event? <;> simp [List.countP_cons]

namespace Application

variable {app : Application p} {roster : Roster p} {event : Event p} {handler : Address}
  {attachment : Attachment p}

/-- An event tells the handler that it reaches. -/
theorem notices_seen (coherent : Coherent app roster) (event : Event p) (handler : Address) :
    (app.seen event).notices handler = if app.reached? event = some handler then 1 else 0 := by
  have htransition := transition coherent event
  rw [← Trace.notices_calls]
  cases reached : app.reached? event with
  | none =>
    rw [(htransition.silent reached).1]
    rfl
  | some other =>
    obtain ⟨attachment, _, _, -, -, delivers⟩ := htransition.delivers coherent reached
    rw [delivers.calls, attachment.notices_calls]
    simp only [Option.some.injEq]

/-- `SIGABRT` is raised. -/
def Event.isAbort : Event p → Bool
  | .abort _ _ _ => true
  | _ => false

/-- How often a handler is told of `SIGABRT` in a run. -/
def abortNotices (app : Application p) (handler : Address) : List (Event p) → Nat
  | [] => 0
  | event :: rest =>
    (if event.isAbort then (app.seen event).notices handler else 0) +
      (app.after event).abortNotices handler rest

/-! ## The target -/

/-- The handler is attached and hooked `SIGABRT`; its context and its target are in memory. -/
structure Alive (app : Application p) (roster : Roster p) (handler : Address)
    (attachment : Attachment p) : Prop where
  attached : roster.get? handler = some attachment
  hooks : attachment.HooksAbort
  context : app.host.contexts.get? handler = some (attachment.context handler)
  target : ∃ target, app.machine.targets.get? handler = some target ∧
    target.Serves handler attachment

/-- The hook has no target but that of a live handler. -/
theorem Coherent.exists_alive (coherent : Coherent app roster)
    (target : app.machine.abortSignal.target = some handler) :
    ∃ attachment, Alive app roster handler attachment := by
  obtain ⟨attachment, live, source⟩ := coherent.abortTarget target
  refine ⟨attachment, live, Attachment.source_eq_abortSignal_iff.mp source, ?_,
    coherent.serves live⟩
  rw [coherent.contexts, live]
  rfl

/-- A handler that is attached does not become the target: only a new one does. -/
theorem lost_after (coherent : Coherent app roster)
    (live : roster.get? handler = some attachment)
    (lost : app.machine.abortSignal.target ≠ some handler) (event : Event p) :
    (app.after event).machine.abortSignal.target ≠ some handler := by
  have hnone {signal : AbortSignal} (h : signal.target = none) : signal.target ≠ some handler := by
    rw [h]
    exact (Option.some_ne_none handler).symm
  cases abortStep coherent event with
  | kept _ hlater => rwa [hlater]
  | @hooked other _ _ _ _ _ hlater fresh =>
    rw [hlater]
    intro h
    cases h
    rw [live] at fresh
    cases fresh
  | restored _ _ hlater =>
    rw [hlater]
    exact hnone (AbortSignal.target_restore _)
  | dumped _ _ hlater =>
    rw [hlater]
    exact hnone (AbortSignal.target_afterDump ..)
  | abandoned _ _ _ hlater => rwa [hlater]
  | set _ _ hlater => rwa [hlater]

/-! ## How often a handler is told -/

/-- The target of the hook is told, and no other handler. -/
theorem notices_abort (coherent : Coherent app roster) (abort : event.isAbort = true)
    (handler : Address) :
    (app.seen event).notices handler = 0 ∨
      app.RunsHook event ∧ (app.seen event).notices handler = 1 ∧
        app.machine.abortSignal.target = some handler := by
  rw [notices_seen coherent]
  cases event with
  | abort task thread outcome =>
    by_cases reached : app.reached? (.abort task thread outcome) = some handler
    · have hooks := (reached?_abort_iff task thread outcome).mp reached
      exact .inr ⟨⟨⟨_, _, _, rfl⟩, hooks.action⟩, if_pos reached, hooks.target⟩
    · exact .inl (if_neg reached)
  | _ => cases abort

/-- A handler that is not the target is never told of `SIGABRT` again. -/
theorem abortNotices_eq_zero {events : List (Event p)} (coherent : Coherent app roster)
    (live : roster.get? handler = some attachment) (stays : app.Stays handler events)
    (lost : app.machine.abortSignal.target ≠ some handler) :
    app.abortNotices handler events = 0 := by
  induction events generalizing app roster attachment with
  | nil => rfl
  | cons event rest ih =>
    obtain ⟨id, hlive⟩ := exists_get?_after coherent live stays.1
    have hrest := ih (coherent_after coherent event) hlive stays.2 (lost_after coherent live lost event)
    rw [abortNotices, hrest]
    split
    · rename_i abort
      rcases notices_abort coherent abort handler with hnone | ⟨-, -, target⟩
      · rw [hnone]
      · exact absurd target lost
    · rfl

/-- While it is attached, a handler is told of `SIGABRT` at most once. -/
theorem abortNotices_le_one {events : List (Event p)} (coherent : Coherent app roster)
    (live : roster.get? handler = some attachment) (stays : app.Stays handler events) :
    app.abortNotices handler events ≤ 1 := by
  induction events generalizing app roster attachment with
  | nil => exact Nat.zero_le 1
  | cons event rest ih =>
    have hcoherent := coherent_after coherent event
    obtain ⟨id, hlive⟩ := exists_get?_after coherent live stays.1
    have hrest := ih hcoherent hlive stays.2
    rw [abortNotices]
    split
    · rename_i abort
      rcases notices_abort coherent abort handler with hnone | ⟨runs, hone, -⟩
      · rw [hnone, Nat.zero_add]
        exact hrest
      · -- the hook has run, and left no target
        have lost : (app.after event).machine.abortSignal.target ≠ some handler := by
          rw [runs.target_after]
          exact (Option.some_ne_none handler).symm
        exact Nat.le_of_eq
          (congrArg₂ (· + ·) hone (abortNotices_eq_zero hcoherent hlive stays.2 lost))
    · rw [Nat.zero_add]
      exact hrest

/-! ## Runs -/

/-- In every run, the target of the hook for `SIGABRT` is that of a live handler, if there is one.
When the signal runs the hook, a fault is delivered to that handler, or else nothing happens but
that the default action is set.  From its attach until its detach, a handler is told of `SIGABRT`
at most once. -/
theorem abortTarget_afterRun (files : FileSystem) (ids : IdSource) (events : List (Event p)) :
    let app := afterRun files ids events
    let roster := Roster.afterRun files ids events
    (∀ handler, app.machine.abortSignal.target = some handler →
      ∃ attachment, Alive app roster handler attachment) ∧
    (app.machine.abortSignal.action = .hook → ∀ task thread outcome,
      match app.machine.abortSignal.target with
      | some handler => ∃ attachment, Alive app roster handler attachment ∧
        Delivers app (.abort task thread outcome) handler attachment (.abort task thread) outcome
      | none => app.seen (.abort task thread outcome) = [] ∧
        app.after (.abort task thread outcome) =
          app.setAbortSignal { app.machine.abortSignal with action := .default }) ∧
    ∀ attach handler later, app.replyTo attach = .attached handler →
      (app.after attach).Stays handler later → (app.after attach).abortNotices handler later ≤ 1 := by
  intro app roster
  have coherent : Coherent app roster := coherent_afterRun files ids events
  refine ⟨fun handler target => coherent.exists_alive target, ?_, ?_⟩
  · intro hook task thread outcome
    split
    · rename_i handler target
      have reached := (reached?_abort_iff task thread outcome).mpr ⟨hook, target⟩
      obtain ⟨attachment, alive⟩ := coherent.exists_alive target
      obtain ⟨another, _, _, live, brings, delivers⟩ :=
        (transition coherent (.abort task thread outcome)).delivers coherent reached
      rw [alive.attached] at live
      cases live
      cases brings
      exact ⟨attachment, alive, delivers⟩
    · rename_i free
      have hhook : app.abortHook task thread outcome =
          (app.setAbortSignal { app.machine.abortSignal with action := .default }, []) := by
        simp only [abortHook, free]
      have habort : app.abort task thread outcome =
          (some .default,
            app.setAbortSignal { app.machine.abortSignal with action := .default }, []) := by
        simp only [abort, hook, hhook]
        rfl
      refine ⟨?_, ?_⟩
      · exact congrArg (·.2.2) habort
      · exact congrArg (·.2.1) habort
  · intro attach handler later reply stays
    obtain ⟨attachment, _, _, request, -⟩ := attached_of_reply coherent reply
    have live : (roster.after app attach).get? handler = some attachment := by
      rw [Roster.after_of_attached reply request, Table.get?_insert_self]
    exact abortNotices_le_one (coherent_after coherent attach) live stays

section

/-- A process that starts with no files. -/
def afterStart (events : List (Event .mac)) : Application .mac :=
  afterRun (.ofWorkingDirectory []) (.fromSeed 0) events

/-- What is attached then. -/
def rosterAfterStart (events : List (Event .mac)) : Roster .mac :=
  .afterRun (.ofWorkingDirectory []) (.fromSeed 0) events

/-- An abort, after which the client puts the hook back for another one. -/
def reinstalled : List (Event .mac) :=
  [.abort 100 101 .written, .setAbortAction .hook, .abort 100 101 .written]

/-- A handler is alive when it is attached, and told once of the aborts that follow.  When it is
gone and the client puts the hook back, the hook does nothing. -/
theorem abortTarget_reinstalled :
    (afterStart [hooking 1 0x10]).machine.abortSignal.target = some 0x10 ∧
      (∃ attachment,
        Alive (afterStart [hooking 1 0x10]) (rosterAfterStart [hooking 1 0x10]) 0x10 attachment) ∧
      (afterStart [hooking 1 0x10, .drop 0x10, .setAbortAction .hook]).seen
        (.abort 100 101 .written) = [] ∧
      (afterStart [hooking 1 0x10]).abortNotices 0x10 reinstalled ≤ 1 := by
  have start := abortTarget_afterRun (p := .mac) (.ofWorkingDirectory []) (.fromSeed 0) []
  have attached := abortTarget_afterRun (.ofWorkingDirectory []) (.fromSeed 0) [hooking 1 0x10]
  have stale := abortTarget_afterRun (.ofWorkingDirectory []) (.fromSeed 0)
    [hooking 1 0x10, .drop 0x10, .setAbortAction .hook]
  have stays : (afterStart [hooking 1 0x10]).Stays 0x10 reinstalled :=
    stays_of_ended? (by decide)
  exact ⟨rfl, attached.1 0x10 rfl, (stale.2.1 rfl 100 101 .written).1,
    start.2.2 (hooking 1 0x10) 0x10 reinstalled rfl stays⟩

end

end Application

end CrashDump
