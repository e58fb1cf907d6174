import CrashDump.Proofs.Application.Run

/-!
# Delivery of faults

In every run, a client is called for the faults that reach its handler and for nothing else: once
for each, with what it was registered with and with the path of that fault's own dump.

* `Trace.calls` and `Trace.asked` are what of a trace the clients and the writer of dumps see.
* `Delivers` says what a fault that reaches a handler brings about.
* `Transition.silent` and `Transition.delivers` read it off the kinds of steps.
* `delivery_afterRun` is the result for runs.
-/

namespace CrashDump

variable {p : Platform}

/-! ## Calls and requests in a trace -/

namespace Trace

/-- The calls of clients, to memory that is gone among them. -/
def calls (trace : Trace p) : Trace p :=
  trace.filter fun
    | .notified _ _ _ => true
    | .invoked _ _ => true
    | .dangling _ => true
    | _ => false

/-- The crashes that the writer of dumps was asked about. -/
def asked (trace : Trace p) : List CrashContext :=
  trace.filterMap fun
    | .asked crash => some crash
    | _ => none

/-- Nobody is called and nothing is asked. -/
def Silent (trace : Trace p) : Prop := calls trace = [] ∧ asked trace = []

theorem not_notified_of_calls {trace : Trace p} (silent : calls trace = []) {address : Address}
    {context : HandlerContext} {path : List p.PathUnit} :
    .notified address context path ∉ trace := by
  intro h
  have hcalls : .notified address context path ∈ calls trace := List.mem_filter.mpr ⟨h, rfl⟩
  rw [silent] at hcalls
  cases hcalls

theorem calls_append (first second : Trace p) :
    calls (first ++ second) = calls first ++ calls second :=
  List.filter_append first second

theorem asked_append (first second : Trace p) :
    asked (first ++ second) = asked first ++ asked second :=
  List.filterMap_append

theorem Silent.append {first second : Trace p} (h₁ : Silent first) (h₂ : Silent second) :
    Silent (first ++ second) := by
  unfold Silent
  rw [calls_append, asked_append, h₁.1, h₁.2, h₂.1, h₂.2]
  exact ⟨rfl, rfl⟩

theorem silent_logged (logs : List LogRecord) : Silent (logs.map .logged : Trace p) := by
  induction logs with
  | nil => exact ⟨rfl, rfl⟩
  | cons record rest ih => exact ih

theorem silent_eventDropped (event : Option UInt64) :
    Silent ((event.map .eventDropped).toList : Trace p) := by
  cases event <;> exact ⟨rfl, rfl⟩

end Trace

/-! ## One dump -/

namespace Attachment

/-- The file of the next dump can be opened. -/
def opens (attachment : Attachment p) (files : FileSystem) : Bool :=
  (DumpFile.openFor p attachment.path files).isOk

theorem calls_calls (attachment : Attachment p) (handler : Address) :
    (attachment.calls handler).calls = attachment.calls handler := by
  unfold calls
  cases attachment.event? <;> rfl

/-- The calls show whose they are. -/
theorem address_of_calls {first second : Attachment p} {a b : Address}
    (h : first.calls a = second.calls b) : a = b := by
  have hhead := (List.cons.inj h).1
  exact (Observation.notified.inj hhead).1

theorem asked_calls (attachment : Attachment p) (handler : Address) :
    (attachment.calls handler).asked = [] := by
  unfold calls
  cases attachment.event? <;> rfl

/-- A dump is written if its file can be opened and its writer succeeds. -/
theorem write_handled (attachment : Attachment p) (crash : CrashContext) (outcome : DumpOutcome)
    (files : FileSystem) :
    (DumpFile.write p attachment.path crash outcome files).1 =
      (attachment.opens files && outcome = .written) := by
  unfold DumpFile.write opens
  cases DumpFile.openFor p attachment.path files with
  | error cause => rfl
  | ok opened => cases outcome <;> rfl

/-- The writer is asked once the file is open. -/
theorem write_asked (attachment : Attachment p) (crash : CrashContext) (outcome : DumpOutcome)
    (files : FileSystem) :
    (DumpFile.write p attachment.path crash outcome files).2.2.asked =
      if attachment.opens files then [crash] else [] := by
  unfold DumpFile.write opens
  cases DumpFile.openFor p attachment.path files with
  | error cause => rfl
  | ok opened => cases outcome <;> rfl

theorem write_calls (attachment : Attachment p) (crash : CrashContext) (outcome : DumpOutcome)
    (files : FileSystem) :
    (DumpFile.write p attachment.path crash outcome files).2.2.calls = [] := by
  unfold DumpFile.write
  cases DumpFile.openFor p attachment.path files with
  | error cause => rfl
  | ok opened => cases outcome <;> rfl

end Attachment

namespace Application

variable {app : Application p} {roster : Roster p} {event : Event p}

/-! ## One step -/

/-- A fault reaches a handler and is delivered as it should. -/
structure Delivers (app : Application p) (event : Event p) (handler : Address)
    (attachment : Attachment p) (crash : CrashContext) (outcome : DumpOutcome) : Prop where
  /-- The client is called once. -/
  calls : (app.seen event).calls = attachment.calls handler
  /-- The writer is asked about this crash at most. -/
  asked : (app.seen event).asked = if attachment.opens app.machine.files then [crash] else []
  /-- The fault counts as handled exactly if its own dump was written. -/
  answers : ∀ handled,
    event.Answers handled (app.replyTo event) app.machine.abortSignal
        (app.after event).machine.abortSignal ↔
      handled = (attachment.opens app.machine.files && outcome = .written)

/-- What is answered shows whether the fault was handled.  For `SIGABRT` it is the saved action that
tells the two apart. -/
theorem Coherent.answers_inj (coherent : Coherent app roster) {handler : Address}
    (reached : app.reached? event = some handler) {reply : Reply} {after : AbortSignal}
    {first second : Bool} (h₁ : event.Answers first reply app.machine.abortSignal after)
    (h₂ : event.Answers second reply app.machine.abortSignal after) : first = second := by
  cases event with
  | abort task thread outcome =>
    have htarget : app.machine.abortSignal.target ≠ none := by
      intro hnone
      simp only [reached?, hnone, ite_self] at reached
      cases reached
    obtain ⟨action, hsaved⟩ := Option.ne_none_iff_exists'.mp (coherent.saved htarget)
    have h : app.machine.abortSignal.afterDump first = app.machine.abortSignal.afterDump second :=
      h₁.1.symm.trans h₂.1
    cases first <;> cases second <;>
      simp [AbortSignal.afterDump, AbortSignal.giveUp, AbortSignal.restore_eq, hsaved] at h ⊢
  | _ => exact Reply.handled.inj (h₁.2.symm.trans h₂.2)

/-- An attach is no fault. -/
theorem reached?_of_attachment? {id : Uuid} {attachment : Attachment p}
    (h : event.attachment? id = some attachment) : app.reached? event = none := by
  cases event with
  | simulate handler crash outcome => cases h
  | crash crash outcome => cases h
  | abort task thread outcome => cases h
  | _ => rfl

/-- A detach is no fault. -/
theorem reached?_of_ended? {handler : Address} (h : event.ended? = some handler) :
    app.reached? event = none := by
  cases event with
  | simulate handler crash outcome => cases h
  | crash crash outcome => cases h
  | abort task thread outcome => cases h
  | _ => rfl

/-- What reaches no handler calls nobody. -/
theorem Transition.silent (transition : Transition app roster event)
    (unreached : app.reached? event = none) : Trace.Silent (app.seen event) := by
  cases transition with
  | @attached address attachment files machine logs _ _ _ _ _ _ _ _ hseen =>
    rw [hseen]
    have silent : Trace.Silent ([.contextAllocated address] : Trace p) := ⟨rfl, rfl⟩
    exact silent.append (Trace.silent_logged logs)
  | @refused files ids memory logs _ _ _ hmemory _ _ hseen =>
    rw [hseen]
    have silent : Trace.Silent memory := by
      rcases hmemory with rfl | ⟨address, -, rfl⟩
      · exact ⟨rfl, rfl⟩
      · exact ⟨rfl, rfl⟩
    exact (silent.append (Trace.silent_logged _)).append (Trace.silent_eventDropped _)
  | detached _ _ _ _ _ _ hseen =>
    rw [hseen]
    exact Trace.Silent.append ⟨rfl, rfl⟩ (Trace.silent_eventDropped _)
  | faulted hreached =>
    rw [unreached] at hreached
    cases hreached
  | abandoned _ _ _ _ _ hseen =>
    rw [hseen]
    exact ⟨rfl, rfl⟩
  | quiet _ _ _ _ _ _ _ hseen =>
    rw [hseen]
    exact ⟨rfl, rfl⟩

/-- What reaches a handler is a fault, and the handler is attached. -/
theorem Transition.faulted_of_reached (transition : Transition app roster event)
    {handler : Address} (hreached : app.reached? event = some handler) :
    ∃ attachment crash outcome target abortSignal, roster.get? handler = some attachment ∧
      event.fault? = some (crash, outcome) ∧
      event.Answers (DumpFile.write p attachment.path crash outcome app.machine.files).1
        (app.replyTo event) app.machine.abortSignal abortSignal ∧
      app.after event =
        app.settle (DumpFile.write p attachment.path crash outcome app.machine.files).2.1
          handler target abortSignal ∧
      app.seen event = (DumpFile.write p attachment.path crash outcome app.machine.files).2.2 ++
        attachment.calls handler := by
  cases transition with
  | attached request =>
    rw [reached?_of_attachment? request] at hreached
    cases hreached
  | refused unreached =>
    rw [unreached] at hreached
    cases hreached
  | detached ends =>
    rw [reached?_of_ended? ends] at hreached
    cases hreached
  | faulted reached live brings _ answers hafter hseen =>
    rw [reached] at hreached
    cases hreached
    exact ⟨_, _, _, _, _, live, brings, answers, hafter, hseen⟩
  | abandoned hevent _ htarget =>
    rw [reached?_of_free hevent htarget] at hreached
    cases hreached
  | quiet unreached =>
    rw [unreached] at hreached
    cases hreached

/-- The fault is delivered to the handler that it reaches. -/
theorem Transition.delivers (transition : Transition app roster event)
    (coherent : Coherent app roster) {handler : Address}
    (reached : app.reached? event = some handler) :
    ∃ attachment crash outcome, roster.get? handler = some attachment ∧
      event.fault? = some (crash, outcome) ∧
      Delivers app event handler attachment crash outcome := by
  obtain ⟨attachment, crash, outcome, target, abortSignal, live, brings, answers, hafter, hseen⟩ :=
    transition.faulted_of_reached reached
  refine ⟨attachment, crash, outcome, live, brings, ?_, ?_, ?_⟩
  · rw [hseen, Trace.calls_append, attachment.write_calls, attachment.calls_calls]
    rfl
  · rw [hseen, Trace.asked_append, attachment.write_asked, attachment.asked_calls]
    exact List.append_nil _
  · intro handled
    have hsignal : (app.after event).machine.abortSignal = abortSignal := by
      rw [hafter]
      rfl
    rw [hsignal, ← attachment.write_handled crash outcome]
    constructor
    · intro h
      exact coherent.answers_inj reached h answers
    · intro h
      rw [h]
      exact answers

/-- A crash reaches the attached handler that hooked the crash handler of the process, be it acted
out or not. -/
theorem Coherent.reached?_crash (coherent : Coherent app roster) {handler : Address}
    {attachment : Attachment p} (live : roster.get? handler = some attachment)
    (source : attachment.source = some .crashHandler) (crash : CrashContext)
    (outcome : DumpOutcome) :
    app.reached? (.crash crash outcome) = some handler ∧
      app.reached? (.simulate handler crash outcome) = some handler := by
  have hheld := (coherent.crashHandler handler).mpr ⟨attachment, live, source⟩
  refine ⟨hheld, ?_⟩
  have hreached : app.reached? (.simulate handler crash outcome) =
      if app.machine.crashHandler = some handler then some handler else none := rfl
  rw [hreached, if_pos hheld]

/-- Everywhere but on mac each handler hooks the crash handler of the process, and on mac it is
asked for. -/
theorem source_eq_crashHandler {attachment : Attachment p}
    (h : p ≠ .mac ∨ attachment.options.exceptionHandler = true) :
    attachment.source = some .crashHandler := by
  unfold Attachment.source
  cases p with
  | linux => rfl
  | windows => rfl
  | mac =>
    have hasked := h.resolve_left fun hne => hne rfl
    rw [FaultSource.ofOptions?, hasked, if_pos rfl]

/-! ## Runs -/

/-- Faults are delivered in every run.  An event that reaches no handler calls nobody.  One that
reaches a handler is a fault, and the handler is attached: its client is called once, with what it
was registered with and the path that its directory and the id drawn last for it make up.  A crash
does reach the handler that was attached for crashes. -/
theorem delivery_afterRun (files : FileSystem) (ids : IdSource) (earlier : List (Event p)) :
    (∀ event : Event p,
      match (afterRun files ids earlier).reached? event with
      | none => Trace.Silent ((afterRun files ids earlier).seen event)
      | some handler => ∃ attachment crash outcome,
        (Roster.afterRun files ids earlier).get? handler = some attachment ∧
        event.fault? = some (crash, outcome) ∧
        Delivers (afterRun files ids earlier) event handler attachment crash outcome) ∧
    ∀ handler attachment, (Roster.afterRun files ids earlier).get? handler = some attachment →
      p ≠ .mac ∨ attachment.options.exceptionHandler = true →
      ∀ crash outcome,
        (afterRun files ids earlier).reached? (.crash crash outcome) = some handler ∧
        (afterRun files ids earlier).reached? (.simulate handler crash outcome) =
          some handler := by
  have coherent : Coherent (afterRun files ids earlier) (Roster.afterRun files ids earlier) :=
    coherent_afterRun files ids earlier
  constructor
  · intro event
    split
    · rename_i unreached
      exact (transition coherent event).silent unreached
    · rename_i handler reached
      exact (transition coherent event).delivers coherent reached
  · intro handler attachment live h crash outcome
    exact coherent.reached?_crash live (source_eq_crashHandler h) crash outcome

end Application

end CrashDump
