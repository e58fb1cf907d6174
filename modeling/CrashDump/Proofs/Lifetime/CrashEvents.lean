import CrashDump.Proofs.Application.Run
import CrashDump.Proofs.Lifetime.Contexts

/-!
# The lives of crash events

A crash event that is passed with a typed attach ends exactly once: before a failed attach is
answered, else when its handler is detached, after that was unhooked.  It is not invoked once it
ended.

`Custody` is what a reader of events, answers and traces knows of the one crash event that may be
in memory between two steps.  `Custody.step` says which steps are in order.

* `Custody.perm_throughAll`: what is in order ends each crash event once, but for one in memory.
* `Custody.exists_step` and `Custody.exists_throughAll`: steps and runs are in order.
* `lifetimes` is the result for contexts and crash events together.
-/

namespace CrashDump

variable {p : Platform}

/-! ## What is known of the crash event -/

/-- Where the crash event is that may be in memory. -/
inductive Custody where
  /-- There is none. -/
  | free
  /-- It belongs to the attached handler at an address. -/
  | held (event : UInt64) (handler : Address)
  /-- Its handler was unhooked. -/
  | unhooked (event : UInt64)
deriving DecidableEq, Repr

namespace Application

/-- A typed attach failed. -/
def Reply.isTypedFailed : Reply → Bool
  | .typedFailed _ => true
  | _ => false

end Application

namespace Custody

/-- What comes of an observation that is in order, where a crash event may have been passed with the
step.  A failed attach ends the one that was passed, and invokes none.  Else one ends that was held,
after its handler was unhooked, and only one that is held is invoked. -/
def observe (failed : Bool) :
    Custody × Option UInt64 → Observation p → Option (Custody × Option UInt64)
  | (held event handler, passed), .invoked other _ =>
    if other = event then some (held event handler, passed) else none
  | _, .invoked _ _ => none
  | (held event handler, passed), .uninstalled other =>
    if other = handler then some (unhooked event, passed) else some (held event handler, passed)
  | (custody, some event), .eventDropped other =>
    if failed && other = event then some (custody, none) else none
  | (unhooked event, none), .eventDropped other =>
    if other = event then some (free, none) else none
  | _, .eventDropped _ => none
  | state, _ => some state

/-- What comes of a trace that is in order. -/
def through (failed : Bool) :
    Custody × Option UInt64 → Trace p → Option (Custody × Option UInt64)
  | state, [] => some state
  | state, observation :: rest => (observe failed state observation).bind (through failed · rest)

/-- What comes of it when the step is over.  A crash event that was passed and did not end belongs
to the handler that was attached, and one whose handler was unhooked has ended. -/
def settle (reply : Application.Reply) : Custody × Option UInt64 → Option Custody
  | (free, some event) =>
    match reply with
    | .attached handler => some (held event handler)
    | _ => none
  | (_, some _) => none
  | (unhooked _, none) => none
  | (custody, none) => some custody

/-- What comes of a step that is in order. -/
def step (custody : Custody) (event : Application.Event p) (reply : Application.Reply)
    (trace : Trace p) : Option Custody :=
  (through reply.isTypedFailed (custody, event.passed?) trace).bind (settle reply)

/-- What comes of a run that is in order. -/
def throughAll : Custody → List (Application.Event p × Application.Reply × Trace p) → Option Custody
  | custody, [] => some custody
  | custody, (event, reply, trace) :: rest =>
    (custody.step event reply trace).bind (throughAll · rest)

/-! ## Traces -/

variable {failed : Bool} {custody : Custody} {passed : Option UInt64}

theorem through_append (state : Custody × Option UInt64) (first second : Trace p) :
    through failed state (first ++ second) =
      (through failed state first).bind (through failed · second) := by
  induction first generalizing state with
  | nil => rfl
  | cons observation rest ih =>
    rw [List.cons_append, through, through]
    cases observe failed state observation with
    | none => rfl
    | some later => exact ih later

/-- The observation has nothing to do with crash events or the handlers they belong to. -/
def Unrelated : Observation p → Prop
  | .invoked _ _ => False
  | .uninstalled _ => False
  | .eventDropped _ => False
  | _ => True

theorem observe_unrelated {observation : Observation p} (h : Unrelated observation)
    (state : Custody × Option UInt64) : observe failed state observation = some state := by
  obtain ⟨custody, passed⟩ := state
  cases observation with
  | invoked event path => exact h.elim
  | uninstalled handler => exact h.elim
  | eventDropped event => exact h.elim
  | _ => cases custody <;> cases passed <;> rfl

theorem through_unrelated {trace : Trace p} (h : ∀ observation ∈ trace, Unrelated observation)
    (state : Custody × Option UInt64) : through failed state trace = some state := by
  induction trace with
  | nil => rfl
  | cons observation rest ih =>
    rw [through, observe_unrelated (h observation List.mem_cons_self), Option.bind_some]
    exact ih fun other hother => h other (List.mem_cons_of_mem _ hother)

theorem unrelated_logged {logs : List LogRecord} :
    ∀ observation ∈ (logs.map .logged : Trace p), Unrelated observation := by
  intro observation h
  obtain ⟨record, -, rfl⟩ := List.mem_map.mp h
  trivial

theorem unrelated_write (path : List p.PathUnit) (crash : CrashContext) (outcome : DumpOutcome)
    (files : FileSystem) :
    ∀ observation ∈ (DumpFile.write p path crash outcome files).2.2, Unrelated observation := by
  intro observation h
  unfold DumpFile.write at h
  split at h
  · rw [List.mem_singleton] at h
    subst h
    trivial
  · cases outcome <;>
      · simp only [List.mem_cons, List.not_mem_nil, or_false] at h
        rcases h with rfl | rfl <;> trivial

/-! ## Each ends once -/

/-- The crash event in memory. -/
def event? : Custody → Option UInt64
  | free => none
  | held event _ => some event
  | unhooked event => some event

/-- The crash events in memory during a step. -/
def inMemory (state : Custody × Option UInt64) : List UInt64 :=
  state.1.event?.toList ++ state.2.toList

/-- The crash events that end in a trace. -/
def ended (trace : Trace p) : List UInt64 :=
  trace.filterMap fun
    | .eventDropped event => some event
    | _ => none

/-- What is in order ends a crash event that is in memory, or none. -/
theorem perm_observe {state later : Custody × Option UInt64} {observation : Observation p}
    (h : observe failed state observation = some later) :
    (inMemory state).Perm (ended [observation] ++ inMemory later) := by
  unfold observe at h
  split at h
  case h_1 =>
    split at h
    · cases h
      rfl
    · cases h
  case h_2 => cases h
  case h_3 =>
    split at h <;> cases h <;> rfl
  case h_4 custody event other =>
    split at h
    · rename_i hended
      rw [Bool.and_eq_true, decide_eq_true_eq] at hended
      rw [hended.2]
      cases h
      have hrest : inMemory (custody, none) = custody.event?.toList := List.append_nil _
      rw [hrest]
      exact List.perm_append_comm
    · cases h
  case h_5 event other =>
    split at h
    · rename_i hended
      rw [hended]
      cases h
      rfl
    · cases h
  case h_6 => cases h
  case h_7 undropped _ _ _ _ =>
    cases h
    cases observation with
    | eventDropped event => exact (undropped event rfl).elim
    | _ => rfl

theorem perm_through {state later : Custody × Option UInt64} {trace : Trace p}
    (h : through failed state trace = some later) :
    (inMemory state).Perm (ended trace ++ inMemory later) := by
  induction trace generalizing state with
  | nil =>
    cases h
    rfl
  | cons observation rest ih =>
    rw [through, Option.bind_eq_some_iff] at h
    obtain ⟨middle, hobserve, hrest⟩ := h
    have hsplit : ended (observation :: rest) = ended [observation] ++ ended rest :=
      List.filterMap_append (l := [observation])
    rw [hsplit, List.append_assoc]
    exact (perm_observe hobserve).trans ((ih hrest).append_left _)

/-- What was passed with a step either ended or belongs to the handler that was attached. -/
theorem eq_of_settle {state : Custody × Option UInt64} {later : Custody} {reply : Application.Reply}
    (h : settle reply state = some later) : inMemory state = later.event?.toList := by
  unfold settle at h
  split at h
  · split at h
    · cases h
      rfl
    · cases h
  · cases h
  · cases h
  · cases h
    exact List.append_nil _

theorem perm_step {later : Custody} {event : Application.Event p} {reply : Application.Reply}
    {trace : Trace p} (h : custody.step event reply trace = some later) :
    (custody.event?.toList ++ event.passed?.toList).Perm (ended trace ++ later.event?.toList) := by
  rw [step, Option.bind_eq_some_iff] at h
  obtain ⟨state, hthrough, hsettle⟩ := h
  rw [← eq_of_settle hsettle]
  exact perm_through hthrough

/-- In a run that is in order, the crash events that are passed are those that end and the one that
is in memory still. -/
theorem perm_throughAll {later : Custody}
    {steps : List (Application.Event p × Application.Reply × Trace p)}
    (h : custody.throughAll steps = some later) :
    (custody.event?.toList ++ steps.filterMap (·.1.passed?)).Perm
      (steps.flatMap (fun step => ended step.2.2) ++ later.event?.toList) := by
  induction steps generalizing custody with
  | nil =>
    cases h
    exact List.perm_append_comm
  | cons first rest ih =>
    obtain ⟨event, reply, trace⟩ := first
    rw [throughAll, Option.bind_eq_some_iff] at h
    obtain ⟨middle, hstep, hrest⟩ := h
    have hpassed : ((event, reply, trace) :: rest).filterMap (·.1.passed?) =
        event.passed?.toList ++ rest.filterMap (·.1.passed?) := by
      rw [List.filterMap_cons]
      cases event.passed? <;> rfl
    have hfirst := (perm_step hstep).append_right (rest.filterMap (·.1.passed?))
    have hlater := (ih hrest).append_left (ended trace)
    rw [List.append_assoc, List.append_assoc] at hfirst
    rw [hpassed, List.flatMap_cons, List.append_assoc]
    exact hfirst.trans hlater

/-! ## Steps -/

/-- The custody of the crash event in a roster. -/
def Agrees (roster : Roster p) : Custody → Prop
  | free => ∀ address attachment, roster.get? address = some attachment → attachment.event? = none
  | held event handler => ∃ attachment, roster.get? handler = some attachment ∧
    attachment.event? = some event
  | unhooked _ => False

open Application

variable {app : Application p} {roster : Roster p} {event : Event p}

/-- A crash event is passed with the attach that it is to be told of. -/
theorem passed?_of_attachment? {id : Uuid} {attachment : Attachment p}
    (h : event.attachment? id = some attachment) : event.passed? = attachment.event? := by
  cases event with
  | attachRaw pointer length function userData options surroundings =>
    obtain ⟨directory, -, rfl⟩ := Option.map_eq_some_iff.mp h
    rfl
  | attachOwned directory function userData options surroundings =>
    cases h
    rfl
  | attachTyped directory choice event surroundings =>
    cases h
    rfl
  | _ => cases h

theorem passed?_of_ended? {handler : Address} (h : event.ended? = some handler) :
    event.passed? = none := by
  cases event with
  | attachTyped directory choice tag surroundings => cases h
  | _ => rfl

theorem passed?_of_fault? {fault : CrashContext × DumpOutcome} (h : event.fault? = some fault) :
    event.passed? = none := by
  cases event with
  | attachTyped directory choice tag surroundings => cases h
  | _ => rfl

/-- A crash event is passed with typed attaches only. -/
theorem isTypedFailed_of_refusal {tag : UInt64} (passed : event.passed? = some tag)
    (refusal : (app.replyTo event).IsRefusal) : (app.replyTo event).isTypedFailed = true := by
  cases event with
  | attachTyped directory choice other surroundings =>
    have hreply : app.replyTo (.attachTyped directory choice other surroundings) =
        .ofTypedAttach (app.attachTyped directory choice other surroundings).1 := rfl
    rw [hreply] at refusal ⊢
    cases h : (app.attachTyped directory choice other surroundings).1 with
    | error cause => rfl
    | ok address =>
      rw [h] at refusal
      exact refusal.elim
  | _ => cases passed

/-- Between steps no crash event is left behind by its handler. -/
theorem settle_of_agrees {custody : Custody} (agrees : Agrees roster custody)
    (reply : Reply) : settle reply (custody, none) = some custody := by
  cases custody with
  | free => rfl
  | held event handler => rfl
  | unhooked event => exact agrees.elim

/-- Without a crash event being passed, a step that has nothing to do with crash events is in
order. -/
theorem step_unrelated {custody : Custody} (agrees : Agrees roster custody)
    (unasked : event.passed? = none) {trace : Trace p}
    (h : ∀ observation ∈ trace, Unrelated observation) (reply : Reply) :
    custody.step event reply trace = some custody := by
  unfold step
  rw [through_unrelated h, unasked]
  exact settle_of_agrees agrees reply

/-- A handler without a crash event comes and goes without changing the custody. -/
theorem agrees_insert {custody : Custody} (agrees : Agrees roster custody) {address : Address}
    {attachment : Attachment p} (free : roster.get? address = none)
    (eventless : attachment.event? = none) :
    Agrees (roster.insert address attachment) custody := by
  cases custody with
  | free =>
    intro other another h
    rw [Table.get?_insert] at h
    split at h
    · cases h
      exact eventless
    · exact agrees other another h
  | held event handler =>
    obtain ⟨another, hanother, hevent⟩ := agrees
    have hne : handler ≠ address := by
      intro h
      rw [h, free] at hanother
      cases hanother
    exact ⟨another, by rw [Table.get?_insert_of_ne _ _ hne, hanother], hevent⟩
  | unhooked event => exact agrees.elim

theorem agrees_rename {custody : Custody} (agrees : Agrees roster custody) (handler : Address)
    (id : Uuid) : Agrees (roster.rename handler id) custody := by
  cases custody with
  | free =>
    intro other another h
    obtain ⟨attachment, hattachment, hsome⟩ :=
      (Roster.exists_get?_rename (P := fun attachment => attachment.event? = another.event?)
        fun _ => Iff.rfl).mp ⟨another, h, rfl⟩
    rw [← hsome]
    exact agrees other attachment hattachment
  | held event other =>
    exact (Roster.exists_get?_rename fun _ => Iff.rfl).mpr agrees
  | unhooked event => exact agrees.elim

/-- The custody is free while no typed handler is attached. -/
theorem eq_free_of_alone {custody : Custody} (coherent : Coherent app roster)
    (agrees : Agrees roster custody) (alone : app.typedAttached = false) : custody = free := by
  cases custody with
  | free => rfl
  | held event handler =>
    obtain ⟨attachment, live, hevent⟩ := agrees
    have htrue := coherent.typedAttached.mpr
      ⟨handler, attachment, live, by rw [hevent]; exact Option.some_ne_none event⟩
    rw [alone] at htrue
    cases htrue
  | unhooked event => exact agrees.elim

/-- An attach leaves the custody alone, or takes the crash event that was passed. -/
theorem exists_step_of_attached {custody : Custody} (coherent : Coherent app roster)
    (agrees : Agrees roster custody) {address : Address} {attachment : Attachment p}
    (passed : event.passed? = attachment.event?) (free : roster.get? address = none)
    (alone : attachment.event? ≠ none → app.typedAttached = false) (logs : List LogRecord) :
    ∃ later, custody.step event (.attached address) (.contextAllocated address :: logs.map .logged) =
        some later ∧ Agrees (roster.insert address attachment) later := by
  have unrelated : ∀ observation ∈ (.contextAllocated address :: logs.map .logged : Trace p),
      Unrelated observation := by
    intro observation h
    rcases List.mem_cons.mp h with rfl | h
    · trivial
    · exact unrelated_logged observation h
  cases hevent : attachment.event? with
  | none =>
    rw [hevent] at passed
    exact ⟨custody, step_unrelated agrees passed unrelated _, agrees_insert agrees free hevent⟩
  | some tag =>
    have hfree := eq_free_of_alone coherent agrees (alone (by rw [hevent]; simp))
    subst hfree
    refine ⟨held tag address, ?_, attachment, Table.get?_insert_self .., hevent⟩
    unfold step
    rw [through_unrelated unrelated, passed, hevent]
    rfl

/-- A failed attach ends the crash event that was passed. -/
theorem step_of_refused {custody : Custody} (agrees : Agrees roster custody)
    (refusal : (app.replyTo event).IsRefusal) {memory : Trace p} {logs : List LogRecord}
    (hmemory : memory = [] ∨ ∃ address, roster.get? address = none ∧
      memory = [.contextAllocated address, .contextFreed address]) :
    custody.step event (app.replyTo event)
      (memory ++ logs.map .logged ++ (event.passed?.map .eventDropped).toList) = some custody := by
  have unrelated : ∀ observation ∈ memory ++ (logs.map .logged : Trace p),
      Unrelated observation := by
    intro observation h
    rcases List.mem_append.mp h with h | h
    · rcases hmemory with rfl | ⟨address, -, rfl⟩
      · cases h
      · simp only [List.mem_cons, List.not_mem_nil, or_false] at h
        rcases h with rfl | rfl <;> trivial
    · exact unrelated_logged observation h
  unfold step
  rw [through_append, through_unrelated unrelated, Option.bind_some]
  cases hpassed : event.passed? with
  | none => exact settle_of_agrees agrees _
  | some tag =>
    have hdropped : through (app.replyTo event).isTypedFailed (custody, some tag)
        (((some tag).map .eventDropped).toList : Trace p) = some (custody, none) := by
      rw [isTypedFailed_of_refusal hpassed refusal]
      cases custody <;> simp [through, observe]
    rw [hdropped]
    exact settle_of_agrees agrees _

/-- The one crash event in memory belongs to the handler that has one. -/
theorem eq_held {custody : Custody} (coherent : Coherent app roster)
    (agrees : Agrees roster custody) {handler : Address} {attachment : Attachment p}
    (live : roster.get? handler = some attachment) {tag : UInt64}
    (hevent : attachment.event? = some tag) : custody = held tag handler := by
  cases custody with
  | free =>
    rw [agrees handler attachment live] at hevent
    cases hevent
  | held other address =>
    obtain ⟨another, hanother, hother⟩ := agrees
    have haddress : address = handler :=
      coherent.typed_unique hanother (by rw [hother]; simp) live (by rw [hevent]; simp)
    rw [haddress, live] at hanother
    cases hanother
    rw [hevent] at hother
    cases hother
    rw [haddress]
  | unhooked event => exact agrees.elim

/-- A detach ends the crash event of its handler, once that is unhooked. -/
theorem exists_step_of_detached {custody : Custody} (coherent : Coherent app roster)
    (agrees : Agrees roster custody) {handler : Address} {attachment : Attachment p}
    (live : roster.get? handler = some attachment) (unasked : event.passed? = none) :
    ∃ later, custody.step event .done
        ([.uninstalled handler, .contextFreed handler, .logged .detached] ++
          (attachment.event?.map .eventDropped).toList) = some later ∧
      Agrees (roster.erase handler) later := by
  unfold step
  rw [unasked]
  cases hevent : attachment.event? with
  | none =>
    refine ⟨custody, ?_, ?_⟩
    · cases custody with
      | free => rfl
      | held tag other =>
        obtain ⟨another, hanother, hother⟩ := agrees
        have hne : handler ≠ other := by
          intro h
          rw [← h, live] at hanother
          cases hanother
          rw [hevent] at hother
          cases hother
        simp [through, observe, hne, settle]
      | unhooked tag => exact agrees.elim
    · cases custody with
      | free =>
        intro other another h
        rw [Table.get?_erase] at h
        split at h
        · cases h
        · exact agrees other another h
      | held tag other =>
        obtain ⟨another, hanother, hother⟩ := agrees
        have hne : other ≠ handler := by
          intro h
          rw [h, live] at hanother
          cases hanother
          rw [hevent] at hother
          cases hother
        exact ⟨another, by rw [Table.get?_erase_of_ne _ hne, hanother], hother⟩
      | unhooked tag => exact agrees.elim
  | some tag =>
    have hheld := eq_held coherent agrees live hevent
    subst hheld
    refine ⟨free, ?_, ?_⟩
    · simp [through, observe, settle]
    · intro other another h
      rw [Table.get?_erase] at h
      split at h
      · cases h
      · rename_i hne
        by_cases hother : another.event? = none
        · exact hother
        · exact absurd (coherent.typed_unique h hother live (by rw [hevent]; simp)) hne

/-- A fault invokes no crash event but the one of the handler that it reaches. -/
theorem through_calls {custody : Custody} (coherent : Coherent app roster)
    (agrees : Agrees roster custody) {handler : Address} {attachment : Attachment p}
    (live : roster.get? handler = some attachment) :
    through failed (custody, none) (attachment.calls handler) = some (custody, none) := by
  have unrelated : Unrelated
      (.notified handler (attachment.context handler) attachment.path : Observation p) := trivial
  unfold Attachment.calls
  rw [through, observe_unrelated unrelated, Option.bind_some]
  cases hevent : attachment.event? with
  | none => rfl
  | some tag =>
    have hheld := eq_held coherent agrees live hevent
    subst hheld
    simp [through, observe]

/-- Whatever the event, the step is in order. -/
theorem exists_step (coherent : Coherent app roster) {custody : Custody}
    (agrees : Agrees roster custody) (event : Event p) :
    ∃ later, custody.step event (app.replyTo event) (app.seen event) = some later ∧
      Agrees (roster.after app event) later := by
  cases transition coherent event with
  | attached request _ free _ alone _ reply _ hseen =>
    rw [Roster.after_of_attached reply request, reply, hseen]
    exact exists_step_of_attached coherent agrees (passed?_of_attachment? request) free alone _
  | refused unreached _ _ hmemory refusal _ hseen =>
    rw [Roster.after_of_refused refusal unreached, hseen]
    exact ⟨custody, step_of_refused agrees refusal hmemory, agrees⟩
  | detached ends live _ _ reply _ hseen =>
    rw [Roster.after_of_detached reply ends, reply, hseen]
    exact exists_step_of_detached coherent agrees live (passed?_of_ended? ends)
  | faulted reached live brings _ answers _ hseen =>
    rw [Roster.after_of_faulted reached answers, hseen]
    refine ⟨custody, ?_, agrees_rename agrees _ _⟩
    unfold step
    rw [through_append, through_unrelated (unrelated_write _ _ _ _), Option.bind_some,
      passed?_of_fault? brings, through_calls coherent agrees live]
    exact settle_of_agrees agrees _
  | abandoned hevent _ htarget reply _ hseen =>
    have unreached := reached?_of_free hevent htarget
    have unasked : event.passed? = none := by
      rw [hevent]
      rfl
    rw [Roster.after_of_abandoned reply unreached, hseen]
    exact ⟨custody, step_unrelated agrees unasked (fun _ h => absurd h List.not_mem_nil) _, agrees⟩
  | quiet unreached unasked _ _ unattached undetached _ hseen =>
    rw [Roster.after_of_quiet unreached unattached undetached, hseen]
    exact ⟨custody, step_unrelated agrees unasked (fun _ h => absurd h List.not_mem_nil) _, agrees⟩

/-! ## Runs -/

/-- A run is in order for crash events. -/
theorem exists_throughAll {app : Application p} {roster : Roster p} (coherent : Coherent app roster)
    {custody : Custody} (agrees : Agrees roster custody) (events : List (Event p)) :
    ∃ later, custody.throughAll (events.zip (app.run events).2) = some later ∧
      Agrees (roster.afterAll app events) later := by
  induction events generalizing app roster custody with
  | nil => exact ⟨custody, rfl, agrees⟩
  | cons event rest ih =>
    obtain ⟨middle, hstep, hmiddle⟩ := exists_step coherent agrees event
    obtain ⟨later, hrest, hlater⟩ := ih (coherent_after coherent event) hmiddle
    have hrun : (app.run (event :: rest)).2 =
        (app.replyTo event, app.seen event) :: ((app.after event).run rest).2 := rfl
    refine ⟨later, ?_, hlater⟩
    rw [hrun, List.zip_cons_cons, throughAll, hstep, Option.bind_some]
    exact hrest

/-- An application holds just the crash event that is in custody. -/
def Holds (app : Application p) : Custody → Prop
  | free => app.typedAttached = false ∧ ∀ address, app.events.get? address = none
  | held event handler => app.typedAttached = true ∧ app.host.handlers.get? handler ≠ none ∧
    ∀ address, app.events.get? address = if address = handler then some event else none
  | unhooked _ => False

theorem holds_of_agrees (coherent : Coherent app roster) {custody : Custody}
    (agrees : Agrees roster custody) : Holds app custody := by
  cases custody with
  | free =>
    have hevents : ∀ address, app.events.get? address = none := by
      intro address
      rw [coherent.events]
      cases live : roster.get? address with
      | none => rfl
      | some attachment => exact agrees address attachment live
    refine ⟨?_, hevents⟩
    cases hattached : app.typedAttached with
    | false => rfl
    | true =>
      obtain ⟨address, attachment, live, hevent⟩ := coherent.typedAttached.mp hattached
      exact absurd (agrees address attachment live) hevent
  | held event handler =>
    obtain ⟨attachment, live, hevent⟩ := agrees
    have hsome : attachment.event? ≠ none := by
      rw [hevent]
      exact Option.some_ne_none event
    refine ⟨coherent.typedAttached.mpr ⟨handler, attachment, live, hsome⟩, ?_, ?_⟩
    · rw [coherent.handlers, live]
      exact Option.some_ne_none _
    · intro address
      rw [coherent.events]
      by_cases h : address = handler
      · rw [if_pos h, h, live]
        exact hevent
      · rw [if_neg h]
        cases hother : roster.get? address with
        | none => rfl
        | some other =>
          by_cases hnone : other.event? = none
          · exact hnone
          · exact absurd (coherent.typed_unique hother hnone live hsome) h
  | unhooked event => exact agrees.elim

end Custody

/-! ## Both -/

/-- Contexts and crash events live as long as they should.  For every installer and every run of a
host, the memory of a context is used in order, is in use as long as its handler is attached, and is
given back once for each time that it was taken.  In every run of an application, every crash event
that is passed with an attach ends once and in order, or is in memory still, and it is invoked only
before it ends. -/
theorem lifetimes {World Native Request : Type} (installer : Installer p World Native Request)
    (world : World) (events : List (Host.Event p Request)) (files : FileSystem) (ids : IdSource)
    (typed : List (Application.Event p)) :
    let host := (Host.run installer (.initial world) events).1
    let steps := (Host.run installer (.initial world) events).2
    let typedSteps := typed.zip ((Application.initial p files ids).run typed).2
    (∀ address,
      Life.throughAll .gone (Host.usesAll address steps) = some (host.life address) ∧
      (host.contexts.get? address = none ↔ host.handlers.get? address = none) ∧
      ((Host.usesAll address steps).flatMap (·.2)).count .allocate =
        ((Host.usesAll address steps).flatMap (·.2)).count .free + (host.life address).size) ∧
    ∃ custody,
      Custody.throughAll .free typedSteps = some custody ∧
      custody.Holds (Application.afterRun files ids typed) ∧
      (typedSteps.filterMap (·.1.passed?)).Perm
        (typedSteps.flatMap (fun step => Custody.ended step.2.2) ++ custody.event?.toList) := by
  have owned : Host.Owned (.initial world : Host World Native) := fun _ => iff_of_true rfl rfl
  constructor
  · intro address
    obtain ⟨hlife, howned⟩ := Host.life_run installer owned events address
    rw [Host.life_of_none rfl] at hlife
    have hcount := Life.count_throughAll hlife
    exact ⟨hlife, howned address, hcount⟩
  · have nobody : Custody.Agrees (.empty : Roster p) .free := by
      intro address attachment h
      cases h
    obtain ⟨custody, hrun, hagrees⟩ :=
      Custody.exists_throughAll (Application.coherent_initial p files ids) nobody typed
    exact ⟨custody, hrun,
      Custody.holds_of_agrees (Application.coherent_afterRun files ids typed) hagrees,
      Custody.perm_throughAll hrun⟩

end CrashDump
