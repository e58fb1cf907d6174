import CrashDump.Proofs.AbortAction

/-!
# One handler and `SIGABRT`

A handler hooks `SIGABRT`, and no other does while it is attached.  Meanwhile other handlers may
come and go, faults may happen, and the client may set the action to anything at any time, to the
hook that it kept too.  What the signal does then depends on the history by one thing only: whether
the hook has run, and if so, whether the dump of the first time was written.

* `hookRun?` and `firstHookRun?`: an event, or the first one in a run that does, runs the hook.
* `Alone`: no other handler hooks the signal in a run.
* `AbortSignal.Lone`: what the two cells hold, given how the first time went.
* `lone_after` and `lone_afterAll`: a step keeps this, and so does a run.
* `lone_afterRun`: what an abort and the detach of the handler do.
-/

namespace CrashDump

variable {p : Platform}

/-- What the cells of `SIGABRT` hold for the one handler that hooks it, which found an action in
place.  The history says whether the dump was written when the hook ran for the first time. -/
def AbortSignal.Lone (signal : AbortSignal) (handler : Address) (found : AbortAction) :
    Option Bool → Prop
  | none => signal.target = some handler ∧ signal.saved = some found
  | some true => signal.target = none ∧ signal.saved = some found
  | some false => signal.target = none ∧ signal.saved = none

namespace AbortSignal

variable {signal : AbortSignal} {handler : Address} {found : AbortAction} {first : Option Bool}

/-- The action has no part in it. -/
theorem Lone.set (lone : signal.Lone handler found first) (action : AbortAction) :
    Lone { signal with action } handler found first := by
  cases first with
  | none => exact lone
  | some written => cases written <;> exact lone

/-- The first time that the hook runs decides. -/
theorem Lone.afterDump (lone : signal.Lone handler found none) (written : Bool) :
    (signal.afterDump written).Lone handler found (some written) := by
  cases written with
  | true => exact ⟨rfl, lone.2⟩
  | false => exact ⟨target_restore signal, saved_restore signal⟩

theorem Lone.target_eq_none {written : Bool} (lone : signal.Lone handler found (some written)) :
    signal.target = none := by
  cases written <;> exact lone.1

/-- Putting back what is kept puts back what was found, unless that was done before. -/
theorem Lone.action_restore (lone : signal.Lone handler found first) :
    signal.restore.action = if first = some false then signal.action else found := by
  have hkept (saved : signal.saved = some found) : signal.restore.action = found := by
    rw [restore_eq, saved, Option.getD_some]
  cases first with
  | none => exact hkept lone.2
  | some written =>
    cases written with
    | true => exact hkept lone.2
    | false => exact AbortSignal.action_restore lone.2

theorem Lone.action_afterDump (lone : signal.Lone handler found none) (written : Bool) :
    (signal.afterDump written).action = if written then .default else found := by
  cases written with
  | true => rfl
  | false => exact lone.action_restore

end AbortSignal

namespace Application

variable {app : Application p} {roster : Roster p} {event : Event p} {handler : Address}
  {attachment : Attachment p} {found : AbortAction} {first : Option Bool}

/-! ## The history -/

/-- Whether a dump was written, if the event raises `SIGABRT` and that runs the hook. -/
def hookRun? (app : Application p) (event : Event p) : Option Bool :=
  match event with
  | .abort _ _ _ =>
    if app.machine.abortSignal.action = .hook then some (event.wrote (app.seen event)) else none
  | _ => none

/-- The same for the first event of a run that does this. -/
def firstHookRun? (app : Application p) : List (Event p) → Option Bool
  | [] => none
  | event :: rest => (app.hookRun? event).or ((app.after event).firstHookRun? rest)

theorem RunsHook.hookRun?_eq (runs : app.RunsHook event) :
    app.hookRun? event = some (event.wrote (app.seen event)) := by
  obtain ⟨task, thread, outcome, rfl⟩ := runs.raised
  exact if_pos runs.action

theorem hookRun?_of_not (unraised : ¬ app.RunsHook event) : app.hookRun? event = none := by
  cases event with
  | abort task thread outcome =>
    refine if_neg ?_
    intro action
    exact unraised ⟨⟨_, _, _, rfl⟩, action⟩
  | _ => rfl

/-- No event of a run attaches a handler that hooks `SIGABRT`. -/
def Alone (app : Application p) : List (Event p) → Prop
  | [] => True
  | event :: rest => ¬ app.Hooking event ∧ (app.after event).Alone rest

/-! ## The only one -/

/-- Among the attached handlers, this one hooked `SIGABRT`, and no other did. -/
structure OnlyHook (roster : Roster p) (handler : Address) : Prop where
  has : roster.Has Attachment.HooksAbort handler
  only : ∀ other, roster.Has Attachment.HooksAbort other → other = handler

/-- An attached handler that hooked `SIGABRT` did so at its attach. -/
theorem has_of_after (coherent : Coherent app roster) (unhooking : ¬ app.Hooking event)
    {other : Address} (has : (roster.after app event).Has Attachment.HooksAbort other) :
    roster.Has Attachment.HooksAbort other := by
  cases transition coherent event with
  | @attached address attachment _ _ _ request _ _ _ _ _ reply =>
    rw [Roster.after_of_attached reply request] at has
    obtain ⟨another, live, hooks⟩ := has
    rw [Table.get?_insert] at live
    split at live
    · cases live
      have source := Attachment.source_eq_abortSignal_iff.mpr hooks
      exact absurd ⟨address, attachment, reply, request, source⟩ unhooking
    · exact ⟨another, live, hooks⟩
  | refused unreached _ _ _ refusal =>
    rwa [Roster.after_of_refused refusal unreached] at has
  | detached ends _ _ _ reply =>
    rw [Roster.after_of_detached reply ends] at has
    obtain ⟨another, live, hooks⟩ := has
    rw [Table.get?_erase] at live
    split at live
    · cases live
    · exact ⟨another, live, hooks⟩
  | faulted reached _ _ _ answers =>
    rw [Roster.after_of_faulted reached answers] at has
    exact (Roster.exists_get?_rename fun _ => Iff.rfl).mp has
  | abandoned hevent _ target reply =>
    rwa [Roster.after_of_abandoned reply (reached?_of_free hevent target)] at has
  | quiet unreached _ _ _ unattached undetached =>
    rwa [Roster.after_of_quiet unreached unattached undetached] at has

theorem OnlyHook.after (only : OnlyHook roster handler) (coherent : Coherent app roster)
    (unhooking : ¬ app.Hooking event) (stays : ¬ app.Detaches event handler) :
    OnlyHook (roster.after app event) handler where
  has := by
    obtain ⟨attachment, live, hooks⟩ := only.has
    obtain ⟨id, hid⟩ := exists_get?_after coherent live stays
    exact ⟨_, hid, hooks⟩
  only other has := only.only other (has_of_after coherent unhooking has)

/-- To detach a handler that hooked `SIGABRT` is to detach this one. -/
theorem OnlyHook.detaches_of_unhooks (only : OnlyHook roster handler)
    (unhooks : Unhooks app roster event) : app.Detaches event handler := by
  obtain ⟨other, attachment, ends, reply, live, source⟩ := unhooks
  have hother := only.only other ⟨attachment, live, Attachment.source_eq_abortSignal_iff.mp source⟩
  exact ⟨hother ▸ ends, reply⟩

theorem OnlyHook.unhooks_of_detaches (only : OnlyHook roster handler)
    (detaches : app.Detaches event handler) : Unhooks app roster event := by
  obtain ⟨attachment, live, hooks⟩ := only.has
  exact ⟨handler, attachment, detaches.1, detaches.2, live,
    Attachment.source_eq_abortSignal_iff.mpr hooks⟩

/-! ## Steps and runs -/

/-- What the cells hold after a step. -/
theorem lone_after (coherent : Coherent app roster) (only : OnlyHook roster handler)
    (unhooking : ¬ app.Hooking event) (stays : ¬ app.Detaches event handler)
    (lone : app.machine.abortSignal.Lone handler found first) :
    (app.after event).machine.abortSignal.Lone handler found (first.or (app.hookRun? event)) := by
  cases abortStep coherent event with
  | kept _ hlater unraised =>
    rw [hlater, hookRun?_of_not unraised, Option.or_none]
    exact lone
  | hooked _ _ hooking => exact absurd hooking unhooking
  | restored unhooks => exact absurd (only.detaches_of_unhooks unhooks) stays
  | dumped _ taken hlater runs hhandled =>
    rw [hlater, runs.hookRun?_eq, hhandled]
    cases first with
    | none => exact lone.afterDump _
    | some written => exact absurd lone.target_eq_none taken
  | abandoned _ _ free hlater runs =>
    rw [hlater, runs.hookRun?_eq]
    cases first with
    | none =>
      rw [lone.1] at free
      cases free
    | some written => exact lone.set _
  | set hevent _ hlater =>
    have unraised : app.hookRun? event = none := by
      rw [hevent]
      rfl
    rw [hlater, unraised, Option.or_none]
    exact lone.set _

/-- What they hold after a run. -/
theorem lone_afterAll {events : List (Event p)} (coherent : Coherent app roster)
    (only : OnlyHook roster handler) (alone : app.Alone events) (stays : app.Stays handler events)
    (lone : app.machine.abortSignal.Lone handler found first) :
    OnlyHook (roster.afterAll app events) handler ∧
      (app.afterAll events).machine.abortSignal.Lone handler found
        (first.or (app.firstHookRun? events)) := by
  induction events generalizing app roster first with
  | nil =>
    rw [firstHookRun?, Option.or_none]
    exact ⟨only, lone⟩
  | cons event rest ih =>
    rw [firstHookRun?, ← Option.or_assoc]
    exact ih (coherent_after coherent event) (only.after coherent alone.1 stays.1) alone.2 stays.2
      (lone_after coherent only alone.1 stays.1 lone)

/-- What they hold when the handler is attached. -/
theorem lone_of_attached (coherent : Coherent app roster) (idle : Idle roster)
    (reply : app.replyTo event = .attached handler)
    (request : event.attachment? app.machine.ids.next = some attachment)
    (source : attachment.source = some .abortSignal) :
    OnlyHook (roster.after app event) handler ∧
      (app.after event).machine.abortSignal.Lone handler app.machine.abortSignal.action none := by
  have hooking : app.Hooking event := ⟨handler, attachment, reply, request, source⟩
  rw [Roster.after_of_attached reply request]
  constructor
  · refine ⟨⟨attachment, Table.get?_insert_self .., ?_⟩, ?_⟩
    · exact Attachment.source_eq_abortSignal_iff.mp source
    · rintro other ⟨another, live, hooks⟩
      rw [Table.get?_insert] at live
      split at live
      · assumption
      · exact absurd ⟨another, live, hooks⟩ (idle other)
  · have hooks := hooks_of_attached coherent reply request source
    cases abortStep coherent event with
    | hooked _ _ _ _ hlater =>
      rw [hlater]
      refine ⟨?_, rfl⟩
      rw [← hooks.target, hlater]
    | kept spared => exact absurd hooking spared.not_hooking
    | restored _ attached => exact absurd hooking attached
    | dumped spared => exact absurd hooking spared.not_hooking
    | abandoned spared => exact absurd hooking spared.not_hooking
    | set _ spared => exact absurd hooking spared.not_hooking

/-! ## Aborts and the detach -/

/-- The first abort that runs the hook is delivered to the handler. -/
theorem delivers_of_lone (coherent : Coherent app roster)
    (live : roster.get? handler = some attachment)
    (lone : app.machine.abortSignal.Lone handler found none)
    (hook : app.machine.abortSignal.action = .hook) (task thread : UInt32)
    (outcome : DumpOutcome) :
    let abort := .abort task thread outcome
    let written := attachment.opens app.machine.files && outcome = .written
    Delivers app abort handler attachment (.abort task thread) outcome ∧
      app.hookRun? abort = some written ∧
      (app.after abort).machine.abortSignal.action = if written then .default else found := by
  have reached := (reached?_abort_iff task thread outcome).mpr ⟨hook, lone.1⟩
  obtain ⟨another, _, _, hlive, brings, delivers⟩ :=
    (transition coherent (.abort task thread outcome)).delivers coherent reached
  rw [live] at hlive
  cases hlive
  cases brings
  refine ⟨delivers, ?_, ?_⟩
  · have runs : app.RunsHook (.abort task thread outcome) := ⟨⟨_, _, _, rfl⟩, hook⟩
    rw [runs.hookRun?_eq, Event.wrote_of_asked rfl delivers.asked]
  · have hsignal := ((delivers.answers _).mpr rfl).1
    rw [hsignal]
    exact lone.action_afterDump _

/-- A later one is not. -/
theorem silent_of_lone (coherent : Coherent app roster) {written : Bool}
    (lone : app.machine.abortSignal.Lone handler found (some written))
    (hook : app.machine.abortSignal.action = .hook) (task thread : UInt32)
    (outcome : DumpOutcome) :
    Trace.Silent (app.seen (.abort task thread outcome)) ∧
      (app.after (.abort task thread outcome)).machine.abortSignal.action = .default := by
  have free := lone.target_eq_none
  have runs : app.RunsHook (.abort task thread outcome) := ⟨⟨_, _, _, rfl⟩, hook⟩
  exact ⟨(transition coherent _).silent (reached?_of_free rfl free), runs.action_after free⟩

/-- The detach puts back what was found, unless a failed dump made the hook do so. -/
theorem action_after_detach (coherent : Coherent app roster) (only : OnlyHook roster handler)
    (lone : app.machine.abortSignal.Lone handler found first)
    (detaches : app.Detaches event handler) :
    (app.after event).machine.abortSignal.action =
      if first = some false then app.machine.abortSignal.action else found := by
  have unhooks := only.unhooks_of_detaches detaches
  cases abortStep coherent event with
  | restored _ _ hlater =>
    rw [hlater]
    exact lone.action_restore
  | kept spared => exact absurd unhooks spared.not_unhooks
  | hooked _ _ hooking =>
    obtain ⟨_, _, reply, -⟩ := hooking
    rw [detaches.2] at reply
    cases reply
  | dumped spared => exact absurd unhooks spared.not_unhooks
  | abandoned spared => exact absurd unhooks spared.not_unhooks
  | set _ spared => exact absurd unhooks spared.not_unhooks

/-- A handler is attached with the hook for `SIGABRT` alone, when no such handler is attached, and
none is attached during its life.  The first abort that runs the hook is delivered to it, and leaves
the default action if the dump was written, and the action that the attach found if it was not.
Every later one that runs the hook is delivered to nobody and leaves the default action.  Its detach
sets the action that the attach found, unless the hook has run and its first dump failed, in which
case the detach leaves the action alone. -/
theorem lone_afterRun (files : FileSystem) (ids : IdSource) (earlier later : List (Event .mac))
    (attach : Event .mac) (handler : Address) (attachment : Attachment .mac)
    (idle : Idle (.afterRun files ids earlier))
    (reply : (afterRun files ids earlier).replyTo attach = .attached handler)
    (request : attach.attachment? (afterRun files ids earlier).machine.ids.next = some attachment)
    (options : attachment.options = ⟨false, true⟩)
    (alone : ((afterRun files ids earlier).after attach).Alone later)
    (stays : ((afterRun files ids earlier).after attach).Stays handler later) :
    let found := (afterRun files ids earlier).machine.abortSignal.action
    let first := ((afterRun files ids earlier).after attach).firstHookRun? later
    let app := afterRun files ids (earlier ++ attach :: later)
    (app.machine.abortSignal.action = .hook → ∀ task thread outcome,
      let abort := .abort task thread outcome
      let action := (app.after abort).machine.abortSignal.action
      (first = none → ∃ id,
        let live := { attachment with id }
        let written := live.opens app.machine.files && outcome = .written
        Delivers app abort handler live (.abort task thread) outcome ∧
          app.hookRun? abort = some written ∧ action = if written then .default else found) ∧
      (first ≠ none → Trace.Silent (app.seen abort) ∧ action = .default)) ∧
    ∀ event, app.Detaches event handler →
      (app.after event).machine.abortSignal.action =
        if first = some false then app.machine.abortSignal.action else found := by
  intro found first app
  have source : attachment.source = some .abortSignal :=
    Attachment.source_eq_abortSignal_iff.mpr ⟨rfl, by rw [options], by rw [options]⟩
  have coherent := coherent_afterRun files ids earlier
  have coherentAttached := coherent_after coherent attach
  obtain ⟨only, lone⟩ := lone_of_attached coherent idle reply request source
  have live : ((Roster.afterRun files ids earlier).after (afterRun files ids earlier) attach).get?
      handler = some attachment := by
    rw [Roster.after_of_attached reply request, Table.get?_insert_self]
  have happ : app = ((afterRun files ids earlier).after attach).afterAll later :=
    afterAll_append _ earlier (attach :: later)
  have coherentLater := coherent_afterAll coherentAttached later
  obtain ⟨onlyLater, loneLater⟩ := lone_afterAll coherentAttached only alone stays lone
  obtain ⟨id, liveLater⟩ := exists_get?_afterAll coherentAttached live stays
  rw [← happ] at coherentLater loneLater
  rw [Option.none_or] at loneLater
  constructor
  · intro hook task thread outcome
    constructor
    · intro hfirst
      have hlone : app.machine.abortSignal.Lone handler found none := hfirst ▸ loneLater
      exact ⟨id, delivers_of_lone coherentLater liveLater hlone hook task thread outcome⟩
    · intro hfirst
      obtain ⟨written, hwritten⟩ := Option.ne_none_iff_exists'.mp hfirst
      have hlone : app.machine.abortSignal.Lone handler found (some written) :=
        hwritten ▸ loneLater
      exact silent_of_lone coherentLater hlone hook task thread outcome
  · intro event detaches
    exact action_after_detach coherentLater onlyLater loneLater detaches

section

/-- A client finds the hook of a handler that is gone in place, because it put it back. -/
def stale : List (Event .mac) := [hooking 1 0x10, .drop 0x10, .setAbortAction .hook]

/-- The application in which a handler is attached then. -/
def afterStale (later : List (Event .mac)) : Application .mac :=
  afterRun (.ofWorkingDirectory []) (.fromSeed 0) (stale ++ hooking 2 0x20 :: later)

/-- The dump of its abort fails, so that the stale hook is back.  The next abort finds nobody, and
the detach leaves the action alone. -/
theorem lone_stale :
    (afterStale [.abort 100 101 .failed]).machine.abortSignal.action = .hook ∧
      Trace.Silent ((afterStale [.abort 100 101 .failed]).seen (.abort 100 101 .written)) ∧
      ((afterStale [.abort 100 101 .failed]).after (.drop 0x20)).machine.abortSignal.action =
        .hook := by
  have idle : Idle (.afterRun (.ofWorkingDirectory []) (.fromSeed 0) stale) := by
    rintro address ⟨attachment, live, -⟩
    cases live
  have alone : (afterStale []).Alone [.abort 100 101 .failed] := by
    refine ⟨?_, trivial⟩
    rintro ⟨handler, -, reply, -⟩
    cases reply
  have stays : (afterStale []).Stays 0x20 [.abort 100 101 .failed] := stays_of_ended? (by decide)
  obtain ⟨aborts, detach⟩ := lone_afterRun (.ofWorkingDirectory []) (.fromSeed 0) stale
    [.abort 100 101 .failed] (hooking 2 0x20) 0x20
    ⟨[], .function 2 0 false, ⟨false, true⟩,
      (afterRun (.ofWorkingDirectory []) (.fromSeed 0) stale).machine.ids.next⟩
    idle rfl rfl rfl alone stays
  have later := (aborts rfl 100 101 .written).2 (Option.some_ne_none false)
  exact ⟨rfl, later.1, detach (.drop 0x20) ⟨rfl, rfl⟩⟩

end

end Application

end CrashDump
