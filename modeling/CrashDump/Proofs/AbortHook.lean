import CrashDump.Proofs.Application.Attach
import CrashDump.Proofs.Delivery

/-!
# Who keeps the hook for `SIGABRT`

The hook has one target at a time.  A handler that was hooked keeps the hook, until the signal is
raised or its action is set, or until any handler is detached that hooked the signal at some time.
The last holds also of a handler whose own abort was delivered long ago: it is not noted that its
hook is gone, so that its detach takes away the hook of another.

* `Hooks`: the signal runs the hook for a handler.
* `Unhooks` and `UnhooksIn`: an event, or one in a run, detaches a handler that hooked the signal.
* `abortSignal_after_cases`: what an event does to the hook, if it spares it otherwise.
* `hooks_afterAll_iff` and `hooks_afterRun_iff`: the hook is kept exactly if nobody unhooks it.
-/

namespace CrashDump.Application

variable {p : Platform} {app : Application p} {roster : Roster p} {event : Event p}
  {handler : Address} {attachment : Attachment p}

/-- The signal runs the hook, and the hook has a dump written by this handler. -/
structure Hooks (app : Application p) (handler : Address) : Prop where
  action : app.machine.abortSignal.action = .hook
  target : app.machine.abortSignal.target = some handler

/-- The event neither raises `SIGABRT` nor sets its action, nor does it detach the handler. -/
def Event.Spares (handler : Address) : Event p → Prop
  | .abort _ _ _ => False
  | .setAbortAction _ => False
  | event => event.ended? ≠ some handler

/-- The event detaches a handler that hooked `SIGABRT`. -/
def Unhooks (app : Application p) (roster : Roster p) (event : Event p) : Prop :=
  ∃ handler attachment, event.ended? = some handler ∧ app.replyTo event = .done ∧
    roster.get? handler = some attachment ∧ attachment.source = some .abortSignal

/-- One of the events of a run does. -/
def UnhooksIn (app : Application p) (roster : Roster p) : List (Event p) → Prop
  | [] => False
  | event :: rest =>
    Unhooks app roster event ∨ UnhooksIn (app.after event) (roster.after app event) rest

theorem unhooksIn_cons {rest : List (Event p)} :
    UnhooksIn app roster (event :: rest) ↔
      Unhooks app roster event ∨ UnhooksIn (app.after event) (roster.after app event) rest :=
  Iff.rfl

/-! ## One step -/

theorem Event.Spares.ended?_ne (spares : event.Spares handler) :
    event.ended? ≠ some handler := by
  cases event with
  | abort task thread outcome => exact spares.elim
  | setAbortAction action => exact spares.elim
  | _ => exact spares

theorem Event.Spares.ne_abort (spares : event.Spares handler) (task thread : UInt32)
    (outcome : DumpOutcome) : event ≠ .abort task thread outcome := by
  intro h
  subst h
  exact spares

theorem Event.Spares.ne_setAbortAction (spares : event.Spares handler) (action : AbortAction) :
    event ≠ .setAbortAction action := by
  intro h
  subst h
  exact spares

/-- Without `SIGABRT` being raised, what is answered leaves the state of the signal alone. -/
theorem Event.Spares.answers_eq (spares : event.Spares handler) {handled : Bool} {reply : Reply}
    {before after : AbortSignal} (h : event.Answers handled reply before after) :
    after = before := by
  cases event with
  | abort task thread outcome => exact spares.elim
  | _ => exact h.1

/-- A fault other than `SIGABRT` reaches the one who holds the crash handler of the process. -/
theorem Event.Spares.crashHandler_of_reached (spares : event.Spares handler) {other : Address}
    (reached : app.reached? event = some other) : app.machine.crashHandler = some other := by
  cases event with
  | simulate target crash outcome =>
    have htarget : (if app.machine.crashHandler = some target then some target else none) =
        some other := reached
    split at htarget
    · cases htarget
      assumption
    · cases htarget
  | crash crash outcome => exact reached
  | abort task thread outcome => exact spares.elim
  | _ => cases reached

theorem not_unhooks_of_reply (h : app.replyTo event ≠ .done) : ¬ Unhooks app roster event := by
  intro unhooks
  obtain ⟨_, _, -, hdone, -⟩ := unhooks
  exact h hdone

theorem not_unhooks_of_ended? (h : event.ended? = none) : ¬ Unhooks app roster event := by
  intro unhooks
  obtain ⟨_, _, hends, -⟩ := unhooks
  rw [h] at hends
  cases hends

/-- What becomes of `SIGABRT`: a detach takes the target from the hook, an attach sets the hook for
a new handler if there is no target, and all else leaves it alone. -/
theorem abortSignal_after_cases (coherent : Coherent app roster)
    (spares : event.Spares handler) :
    (¬ Unhooks app roster event ∧
      (app.after event).machine.abortSignal = app.machine.abortSignal) ∨
    (¬ Unhooks app roster event ∧ app.machine.abortSignal.target = none ∧
      ∃ other, roster.get? other = none ∧
        (app.after event).machine.abortSignal.target = some other) ∨
    (Unhooks app roster event ∧ (app.after event).machine.abortSignal.target = none) := by
  cases transition coherent event with
  | @attached address attachment files machine logs request _ free _ _ hooked reply hafter _ =>
    have hnot : ¬ Unhooks app roster event := not_unhooks_of_reply (by rw [reply]; simp)
    have hsignal : (app.after event).machine.abortSignal = machine.abortSignal := by
      rw [hafter]
      rfl
    rw [hsignal]
    rcases Machine.hook_cases hooked with ⟨-, rfl⟩ | ⟨-, -, htarget, rfl⟩ | ⟨-, -, -, rfl⟩
    · exact .inl ⟨hnot, rfl⟩
    · exact .inr (.inl ⟨hnot, htarget, address, free, rfl⟩)
    · exact .inl ⟨hnot, rfl⟩
  | refused _ _ _ _ refusal hafter _ =>
    refine .inl ⟨not_unhooks_of_reply ?_, by rw [hafter]; rfl⟩
    intro hdone
    rw [hdone] at refusal
    exact refusal
  | @detached other attachment registry ends live _ _ reply hafter _ =>
    have hsignal : (app.after event).machine.abortSignal =
        (app.machine.unhook attachment.source).abortSignal := by
      rw [hafter]
      rfl
    by_cases hsource : attachment.source = some .abortSignal
    · refine .inr (.inr ⟨⟨other, attachment, ends, reply, live, hsource⟩, ?_⟩)
      rw [hsignal, hsource]
      exact AbortSignal.target_restore _
    · left
      constructor
      · intro unhooks
        obtain ⟨_, another, hends, -, hlive, hanother⟩ := unhooks
        rw [ends] at hends
        cases hends
        rw [live] at hlive
        cases hlive
        exact hsource hanother
      · rw [hsignal]
        rcases h : attachment.source with _ | _ | _
        · rfl
        · rfl
        · exact absurd h hsource
  | faulted _ _ _ _ answers hafter _ =>
    refine .inl ⟨not_unhooks_of_reply ?_, ?_⟩
    · intro hdone
      rw [hdone] at answers
      rcases answers.reply_cases with ⟨_, h⟩ | ⟨_, _, h⟩ <;> cases h
    · rw [hafter]
      exact spares.answers_eq answers
  | abandoned hevent => exact absurd hevent (spares.ne_abort _ _ _)
  | quiet _ _ _ haction _ undetached hafter _ =>
    refine .inl ⟨?_, ?_⟩
    · by_cases hdone : app.replyTo event = .done
      · exact not_unhooks_of_ended? (undetached hdone)
      · exact not_unhooks_of_reply hdone
    · rw [hafter]
      rcases haction with rfl | hset
      · rfl
      · exact absurd hset (spares.ne_setAbortAction _)

/-- A handler that hooked `SIGABRT` stays as it is while it is spared: no other fault reaches it. -/
theorem get?_after (coherent : Coherent app roster) (spares : event.Spares handler)
    (live : roster.get? handler = some attachment)
    (source : attachment.source = some .abortSignal) :
    (roster.after app event).get? handler = some attachment := by
  cases transition coherent event with
  | @attached address _ _ _ _ request _ free _ _ _ reply _ _ =>
    have hne : handler ≠ address := by
      intro h
      rw [h, free] at live
      cases live
    rw [Roster.after_of_attached reply request, Table.get?_insert_of_ne _ _ hne, live]
  | refused unreached _ _ _ refusal _ _ =>
    rw [Roster.after_of_refused refusal unreached, live]
  | @detached other _ _ ends _ _ _ reply _ _ =>
    have hne : handler ≠ other := by
      intro h
      exact spares.ended?_ne (h ▸ ends)
    rw [Roster.after_of_detached reply ends, Table.get?_erase_of_ne _ hne, live]
  | @faulted other _ _ _ _ _ reached _ _ _ answers _ _ =>
    have hheld := spares.crashHandler_of_reached reached
    have hne : handler ≠ other := by
      intro h
      obtain ⟨another, hanother, hsource⟩ := (coherent.crashHandler other).mp hheld
      rw [← h, live] at hanother
      cases hanother
      rw [source] at hsource
      cases hsource
    rw [Roster.after_of_faulted reached answers, Roster.get?_rename, if_neg hne, live]
  | abandoned hevent => exact absurd hevent (spares.ne_abort _ _ _)
  | quiet unreached _ _ _ unattached undetached _ _ =>
    rw [Roster.after_of_quiet unreached unattached undetached, live]

/-- A hook is kept in a step exactly if nobody unhooks it. -/
theorem hooks_after_iff (coherent : Coherent app roster) (spares : event.Spares handler)
    (hooks : app.Hooks handler) :
    (app.after event).Hooks handler ↔ ¬ Unhooks app roster event := by
  rcases abortSignal_after_cases coherent spares with
    ⟨hnot, hsame⟩ | ⟨-, htarget, -⟩ | ⟨hunhooks, hnone⟩
  · have hkept : (app.after event).Hooks handler :=
      ⟨by rw [hsame]; exact hooks.action, by rw [hsame]; exact hooks.target⟩
    exact iff_of_true hkept hnot
  · rw [hooks.target] at htarget
    cases htarget
  · refine iff_of_false ?_ (not_not_intro hunhooks)
    intro hkept
    rw [hkept.target] at hnone
    cases hnone

/-- A hook that is lost is not regained. -/
theorem target_after_ne (coherent : Coherent app roster) (spares : event.Spares handler)
    (live : roster.get? handler = some attachment)
    (lost : app.machine.abortSignal.target ≠ some handler) :
    (app.after event).machine.abortSignal.target ≠ some handler := by
  rcases abortSignal_after_cases coherent spares with
    ⟨-, hsame⟩ | ⟨-, -, other, free, htarget⟩ | ⟨-, hnone⟩
  · rw [hsame]
    exact lost
  · intro h
    rw [htarget] at h
    cases h
    rw [live] at free
    cases free
  · rw [hnone]
    exact (Option.some_ne_none handler).symm

/-! ## Runs -/

theorem get?_afterAll {events : List (Event p)} (coherent : Coherent app roster)
    (spares : ∀ event ∈ events, event.Spares handler)
    (live : roster.get? handler = some attachment)
    (source : attachment.source = some .abortSignal) :
    (roster.afterAll app events).get? handler = some attachment := by
  induction events generalizing app roster with
  | nil => exact live
  | cons event rest ih =>
    have hspares := spares event List.mem_cons_self
    exact ih (coherent_after coherent event) (fun other h => spares other (List.mem_cons_of_mem _ h))
      (get?_after coherent hspares live source)

theorem target_afterAll_ne {events : List (Event p)} (coherent : Coherent app roster)
    (spares : ∀ event ∈ events, event.Spares handler)
    (live : roster.get? handler = some attachment)
    (source : attachment.source = some .abortSignal)
    (lost : app.machine.abortSignal.target ≠ some handler) :
    (app.afterAll events).machine.abortSignal.target ≠ some handler := by
  induction events generalizing app roster with
  | nil => exact lost
  | cons event rest ih =>
    have hspares := spares event List.mem_cons_self
    exact ih (coherent_after coherent event) (fun other h => spares other (List.mem_cons_of_mem _ h))
      (get?_after coherent hspares live source) (target_after_ne coherent hspares live lost)

/-- A hook is kept through a run exactly if nobody unhooks it on the way. -/
theorem hooks_afterAll_iff {events : List (Event p)} (coherent : Coherent app roster)
    (spares : ∀ event ∈ events, event.Spares handler)
    (live : roster.get? handler = some attachment)
    (source : attachment.source = some .abortSignal) (hooks : app.Hooks handler) :
    (app.afterAll events).Hooks handler ↔ ¬ UnhooksIn app roster events := by
  induction events generalizing app roster with
  | nil => exact iff_of_true hooks not_false
  | cons event rest ih =>
    have hspares := spares event List.mem_cons_self
    have hrest : ∀ other ∈ rest, other.Spares handler :=
      fun other h => spares other (List.mem_cons_of_mem _ h)
    have hlive := get?_after coherent hspares live source
    have hstep := hooks_after_iff coherent hspares hooks
    by_cases hunhooks : Unhooks app roster event
    · have hlost : (app.after event).machine.abortSignal.target ≠ some handler := by
        rcases abortSignal_after_cases coherent hspares with ⟨hnot, -⟩ | ⟨hnot, -⟩ | ⟨-, hnone⟩
        · exact absurd hunhooks hnot
        · exact absurd hunhooks hnot
        · rw [hnone]
          exact (Option.some_ne_none handler).symm
      refine iff_of_false ?_ (not_not_intro (.inl hunhooks))
      intro hkept
      exact target_afterAll_ne (coherent_after coherent event) hrest hlive source hlost hkept.target
    · have hkept := hstep.mpr hunhooks
      rw [afterAll_cons, ih (coherent_after coherent event) hrest hlive hkept]
      rw [unhooksIn_cons, or_iff_right hunhooks]

/-- A successful attach that hooks `SIGABRT` gets the hook. -/
theorem hooks_of_attached (coherent : Coherent app roster)
    (reply : app.replyTo event = .attached handler)
    (request : event.attachment? app.machine.ids.next = some attachment)
    (source : attachment.source = some .abortSignal) : (app.after event).Hooks handler := by
  obtain ⟨other, files, machine, hrequest, -, -, hooked, hafter⟩ :=
    attached_of_reply coherent reply
  rw [request] at hrequest
  cases hrequest
  have hsignal : (app.after event).machine.abortSignal = machine.abortSignal := by
    rw [hafter]
    rfl
  rcases Machine.hook_cases hooked with ⟨hnone, -⟩ | ⟨-, -, -, rfl⟩ | ⟨hcrash, -⟩
  · rw [source] at hnone
    cases hnone
  · exact ⟨by rw [hsignal], by rw [hsignal]⟩
  · rw [source] at hcrash
    cases hcrash

/-- `SIGABRT` reaches a handler exactly if that handler has the hook. -/
theorem reached?_abort_iff (task thread : UInt32) (outcome : DumpOutcome) :
    app.reached? (.abort task thread outcome) = some handler ↔ app.Hooks handler := by
  have hreached : app.reached? (.abort task thread outcome) =
      if app.machine.abortSignal.action = .hook then app.machine.abortSignal.target else none :=
    rfl
  rw [hreached]
  constructor
  · intro h
    split at h
    · exact ⟨by assumption, h⟩
    · cases h
  · intro hooks
    rw [if_pos hooks.action, hooks.target]

/-- The client of a handler is called for `SIGABRT` exactly if the handler has the hook. -/
theorem calls_abort_iff (coherent : Coherent app roster)
    (live : roster.get? handler = some attachment) (task thread : UInt32)
    (outcome : DumpOutcome) :
    Trace.calls (app.seen (.abort task thread outcome)) = attachment.calls handler ↔
      app.Hooks handler := by
  rw [← reached?_abort_iff task thread outcome]
  have htransition := transition coherent (.abort task thread outcome)
  constructor
  · intro hcalls
    cases hreached : app.reached? (.abort task thread outcome) with
    | none =>
      rw [(htransition.silent hreached).1] at hcalls
      cases hcalls
    | some other =>
      obtain ⟨another, _, _, -, -, hdelivers⟩ := htransition.delivers coherent hreached
      rw [hdelivers.calls] at hcalls
      rw [Attachment.address_of_calls hcalls]
  · intro hreached
    obtain ⟨another, _, _, hanother, -, hdelivers⟩ := htransition.delivers coherent hreached
    rw [live] at hanother
    cases hanother
    exact hdelivers.calls

/-! ## From an attach on -/

/-- A handler that is attached with the hook for `SIGABRT` alone has the hook after every run that
spares it, and is delivered the next `SIGABRT`, exactly if nobody that hooked the signal was
detached on the way. -/
theorem hooks_afterRun_iff (files : FileSystem) (ids : IdSource) (earlier : List (Event .mac))
    (attach : Event .mac) (handler : Address) (attachment : Attachment .mac)
    (reply : (afterRun files ids earlier).replyTo attach = .attached handler)
    (request : attach.attachment? (afterRun files ids earlier).machine.ids.next = some attachment)
    (options : attachment.options = ⟨false, true⟩)
    (later : List (Event .mac)) (spares : ∀ event ∈ later, event.Spares handler) :
    let unhooked := UnhooksIn (afterRun files ids (earlier ++ [attach]))
      (Roster.afterRun files ids (earlier ++ [attach])) later
    let app := afterRun files ids (earlier ++ attach :: later)
    (app.Hooks handler ↔ ¬ unhooked) ∧
      ∀ task thread outcome,
        Trace.calls (app.seen (.abort task thread outcome)) = attachment.calls handler ↔
          ¬ unhooked := by
  have source : attachment.source = some .abortSignal := by
    unfold Attachment.source
    rw [options]
    rfl
  have coherent := coherent_afterRun files ids earlier
  have coherentAttached := coherent_after coherent attach
  have hooks := hooks_of_attached coherent reply request source
  have live : ((Roster.afterRun files ids earlier).after (afterRun files ids earlier) attach).get?
      handler = some attachment := by
    rw [Roster.after_of_attached reply request, Table.get?_insert_self]
  have happ : afterRun files ids (earlier ++ attach :: later) =
      ((afterRun files ids earlier).after attach).afterAll later :=
    afterAll_append _ earlier (attach :: later)
  have hattached : afterRun files ids (earlier ++ [attach]) =
      (afterRun files ids earlier).after attach :=
    afterAll_append _ earlier [attach]
  have hroster : Roster.afterRun files ids (earlier ++ [attach]) =
      (Roster.afterRun files ids earlier).after (afterRun files ids earlier) attach :=
    roster_afterAll_append _ _ earlier [attach]
  have kept := hooks_afterAll_iff coherentAttached spares live source hooks
  have coherentLater := coherent_afterAll coherentAttached later
  have liveLater := get?_afterAll coherentAttached spares live source
  rw [happ, hattached, hroster]
  constructor
  · exact kept
  · intro task thread outcome
    rw [calls_abort_iff coherentLater liveLater task thread outcome]
    exact kept

section

/-- An owned attach with the hook for `SIGABRT` alone. -/
def hooking (function : Nat) (preferred : Address) : Event .mac :=
  .attachOwned [] function 0 ⟨false, true⟩ ⟨none, preferred⟩

/-- A first handler hooks the signal, which is then raised. -/
def firstAborted : List (Event .mac) := [hooking 1 0x10, .abort 100 101 .written]

/-- The application after that, starting with no files. -/
def afterFirst (later : List (Event .mac)) : Application .mac :=
  afterRun (.ofWorkingDirectory []) (.fromSeed 0) (firstAborted ++ later)

/-- A second handler then gets the hook, and neither a failed attach nor a crash takes it away. -/
theorem hooks_second :
    (afterFirst [hooking 2 0x20, hooking 3 0x30, .crash (.signal .segv) .written]).Hooks 0x20 := by
  have spares : ∀ event ∈ [hooking 3 0x30, .crash (.signal .segv) .written],
      event.Spares 0x20 := by
    intro event h
    simp only [List.mem_cons, List.not_mem_nil, or_false] at h
    rcases h with rfl | rfl
    · exact fun h => nomatch h
    · exact fun h => nomatch h
  have kept := (hooks_afterRun_iff (.ofWorkingDirectory []) (.fromSeed 0) firstAborted
    (hooking 2 0x20) 0x20 ⟨[], .function 2 0 false, ⟨false, true⟩, (afterFirst []).machine.ids.next⟩
    rfl rfl rfl _ spares).1
  refine kept.mpr ?_
  intro unhooked
  rcases unhooked with ⟨_, _, hends, -⟩ | ⟨_, _, hends, -⟩ | h
  · cases hends
  · cases hends
  · exact h

/-- But when the first handler is detached, the second one loses the hook, and `SIGABRT` ends the
process without a dump. -/
theorem not_hooks_second :
    (afterFirst []).replyTo (hooking 2 0x20) = .attached 0x20 ∧
      (Event.drop 0x10 : Event .mac).Spares 0x20 ∧
      ¬ (afterFirst [hooking 2 0x20, .drop 0x10]).Hooks 0x20 ∧
      (afterFirst [hooking 2 0x20, .drop 0x10]).machine.abortSignal.action = .default := by
  refine ⟨rfl, ?_, ?_, rfl⟩
  · intro h
    cases h
  · intro hooks
    cases hooks.action

end

end CrashDump.Application
