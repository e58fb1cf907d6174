import CrashDump.Proofs.Application.Allocation
import CrashDump.Proofs.Application.Twins

/-!
# Twins side by side

Two applications that differ in one handler at most go on alike, as long as nobody asks for that
handler to be detached.

* `Corresponds`: two computations answer the same, are seen the same, and end in twins.
* `corresponds_attach` and its like: what events are made of does, applied to twins.
* `corresponds_step`: steps of twins do.
* `twins_run`: runs of twins that have the same handlers are the same.
-/

namespace CrashDump.Application

variable {p : Platform} {app other : Application p} {difference : Difference}
  {handler address : Address}

/-! ## Computations side by side -/

variable {A B : Type}

/-- The two computations have the same answer and trace, and end in twins. -/
structure Corresponds (difference : Difference) (result other : A × Application p × Trace p) :
    Prop where
  answer : other.1 = result.1
  twins : Twins difference result.2.1 other.2.1
  trace : other.2.2 = result.2.2

/-- What is done to results that correspond, alike for twins. -/
theorem Corresponds.map {result other : A × Application p × Trace p}
    (corresponds : Corresponds difference result other)
    (f : A × Application p × Trace p → B × Application p × Trace p)
    (alike : ∀ answer app other trace, Twins difference app other →
      Corresponds difference (f (answer, app, trace)) (f (answer, other, trace))) :
    Corresponds difference (f result) (f other) := by
  obtain ⟨answer, app, trace⟩ := result
  obtain ⟨answer', other, trace'⟩ := other
  obtain ⟨hanswer, twins, htrace⟩ := corresponds
  cases hanswer
  cases htrace
  exact alike answer app other trace twins

/-! ### Attaching -/

theorem corresponds_attach (twins : Twins difference app other)
    (free : app.host.contexts.get? address = none) (directory : List p.PathUnit)
    (context : HandlerContext) (options : InstallOptions) (refusal : Option Refusal) :
    Corresponds difference (app.attach address directory context options refusal)
      (other.attach address directory context options refusal) := by
  have shown := twins.ne_of_free free
  obtain ⟨targets, contexts, handlers, registry, rfl⟩ := twins.exists_refit
  by_cases hfits : requiredUnits directory.length ≤ p.maxPathUnits
  · have hhook := Machine.hook_setTargets app.machine targets refusal address
      (FaultSource.ofOptions? p options)
    have hmachine : (app.refit targets contexts handlers registry).machine =
        { app.machine with targets } := rfl
    rw [attach_of_fits app address context options refusal hfits,
      attach_of_fits (app.refit targets contexts handlers registry) address context options
        refusal hfits, hmachine, hhook]
    rcases hresult : app.machine.hook refusal address (FaultSource.ofOptions? p options) with
      ⟨cause | ⟨⟩, hooked⟩
    · exact ⟨rfl, twins.setCells { app.machine with ids := app.machine.ids.advance }, rfl⟩
    · have htargets : hooked.targets = app.machine.targets := (Machine.frame_hook hresult).1
      have twins₁ := twins.setCells { hooked with ids := app.machine.ids.advance }
      have twins₂ := twins₁.insertTarget (Difference.reaches_of_shown shown)
        (Target.new directory address app.machine.ids.next)
      have twins₃ := twins₂.insertContext shown context
      have twins₄ := twins₃.insertHandler shown
        ⟨⟨FaultSource.ofOptions? p options, address⟩, none⟩
      refine ⟨rfl, ?_, rfl⟩
      simp only [htargets]
      exact twins₄
  · have htoo : requiredUnits directory.length > p.maxPathUnits := Nat.not_le.mp hfits
    simp only [attach, Host.attach, htoo, if_true]
    exact ⟨rfl, twins, rfl⟩

theorem corresponds_attachOwned (twins : Twins difference app other) (directory : List p.PathUnit)
    (context : HandlerContext) (options : InstallOptions) {surroundings : Surroundings}
    (same : other.host.nextAddress surroundings.preferred =
      app.host.nextAddress surroundings.preferred) :
    Corresponds difference (app.attachOwned directory context options surroundings)
      (other.attachOwned directory context options surroundings) := by
  have corresponds := corresponds_attach twins
    (get?_contexts_nextAddress app surroundings.preferred) directory context options
    surroundings.refusal
  simp only [attachOwned, same]
  generalize app.attach _ _ _ _ _ = result, other.attach _ _ _ _ _ = result' at corresponds ⊢
  apply corresponds.map
  intro answer app other trace twins
  cases answer <;> exact ⟨rfl, twins, rfl⟩

/-- The answer to an owned attach was a free address. -/
theorem free_of_attachOwned {directory : List p.PathUnit} {context : HandlerContext}
    {options : InstallOptions} {surroundings : Surroundings}
    (answer : (app.attachOwned directory context options surroundings).1 = .ok address) :
    app.host.contexts.get? address = none := by
  have haddress : app.host.nextAddress surroundings.preferred = address := by
    unfold attachOwned at answer
    dsimp only at answer
    split at answer
    · cases answer
    · exact Except.ok.inj answer
  rw [← haddress]
  exact get?_contexts_nextAddress app surroundings.preferred

theorem twins_handOut (twins : Twins difference app other)
    (shown : difference.hidden ≠ some address) (handle : Address) :
    Twins difference { app with host := app.host.handOut address handle }
      { other with host := other.host.handOut address handle } := by
  unfold Host.handOut
  rw [twins.handlers address shown]
  cases app.host.handlers.get? address with
  | none => exact twins
  | some attached =>
    by_cases hraw : attached.raw.isSome
    · simp only [hraw, if_true]
      exact twins
    · simp only [hraw, Bool.false_eq_true, if_false]
      exact (twins.insertHandler shown _).setRegistry (twins.registry.insert handle)

theorem corresponds_attachRaw (twins : Twins difference app other)
    (pointer : Option (List p.PathUnit)) (length : Nat) (context : HandlerContext)
    (options : InstallOptions) {surroundings : Surroundings}
    (same : other.host.nextAddress surroundings.preferred =
      app.host.nextAddress surroundings.preferred) :
    Corresponds difference (app.attachRaw pointer length context options surroundings)
      (other.attachRaw pointer length context options surroundings) := by
  unfold attachRaw
  cases readDirectory pointer length with
  | error cause => exact ⟨rfl, twins, rfl⟩
  | ok directory =>
    have corresponds := corresponds_attachOwned twins directory context options same
    have shown : ∀ address, (app.attachOwned directory context options surroundings).1 =
        .ok address → difference.hidden ≠ some address :=
      fun address answer => twins.ne_of_free (free_of_attachOwned answer)
    dsimp only
    generalize app.attachOwned _ _ _ _ = result, other.attachOwned _ _ _ _ = result'
      at corresponds shown ⊢
    obtain ⟨answer, after, trace⟩ := result
    obtain ⟨answer', after', trace'⟩ := result'
    obtain ⟨hanswer, twins', htrace⟩ := corresponds
    cases hanswer
    cases htrace
    cases answer with
    | error cause => exact ⟨rfl, twins', rfl⟩
    | ok address => exact ⟨rfl, twins_handOut twins' (shown address rfl) address, rfl⟩

theorem corresponds_attachCrashEvent (twins : Twins difference app other) (directory : Path)
    (choice : HandlerChoice) (event : UInt64) {surroundings : Surroundings}
    (same : other.host.nextAddress surroundings.preferred =
      app.host.nextAddress surroundings.preferred) :
    Corresponds difference (app.attachCrashEvent directory choice event surroundings)
      (other.attachCrashEvent directory choice event surroundings) := by
  unfold attachCrashEvent
  rw [twins.files]
  cases app.machine.files.makeDirectories directory with
  | mk answer files =>
    have twins' := twins_setFiles twins files
    cases answer with
    | error cause => exact ⟨rfl, twins', rfl⟩
    | ok =>
      have hsame : (other.setFiles files).host.nextAddress surroundings.preferred =
          (app.setFiles files).host.nextAddress surroundings.preferred := same
      have corresponds := corresponds_attach twins'
        (get?_contexts_nextAddress (app.setFiles files) surroundings.preferred)
        (p.codec.encode directory)
        (.crashEvent ((app.setFiles files).host.nextAddress surroundings.preferred)) choice.options
        surroundings.refusal
      simp only [hsame]
      generalize (app.setFiles files).attach _ _ _ _ _ = result,
        (other.setFiles files).attach _ _ _ _ _ = result' at corresponds ⊢
      apply corresponds.map
      intro answer after after' trace twins
      cases answer with
      | error cause => exact ⟨rfl, twins, rfl⟩
      | ok =>
        refine ⟨rfl, twins.setEvents ?_ twins.typedAttached, rfl⟩
        rw [twins.events]

theorem corresponds_attachTyped (twins : Twins difference app other) (directory : Path)
    (choice : HandlerChoice) (event : UInt64) {surroundings : Surroundings}
    (same : other.host.nextAddress surroundings.preferred =
      app.host.nextAddress surroundings.preferred) :
    Corresponds difference (app.attachTyped directory choice event surroundings)
      (other.attachTyped directory choice event surroundings) := by
  unfold attachTyped
  rw [twins.typedAttached]
  cases app.typedAttached with
  | true => exact ⟨rfl, twins, rfl⟩
  | false =>
    have twins' : Twins difference { app with typedAttached := true }
        { other with typedAttached := true } := twins.setEvents twins.events rfl
    have corresponds := corresponds_attachCrashEvent twins' directory choice event same
    simp only [Bool.false_eq_true, if_false]
    generalize attachCrashEvent { app with typedAttached := true } _ _ _ _ = result,
      attachCrashEvent { other with typedAttached := true } _ _ _ _ = result' at corresponds ⊢
    apply corresponds.map
    intro answer after after' trace twins
    cases answer with
    | error cause => exact ⟨rfl, twins.setEvents twins.events rfl, rfl⟩
    | ok address => exact ⟨rfl, twins, rfl⟩

/-! ### Detaching -/

/-- A handler is uninstalled by its cells, which twins share, and its target, which they need not
share. -/
theorem Twins.uninstall_eq (twins : Twins difference app other) (native : NativeHandler) :
    app.machine.uninstall native =
        { app.machine.unhook native.source with
          targets := app.machine.targets.erase native.target } ∧
      other.machine.uninstall native =
        { app.machine.unhook native.source with
          targets := other.machine.targets.erase native.target } := by
  obtain ⟨targets, contexts, handlers, registry, rfl⟩ := twins.exists_refit
  obtain ⟨source, target⟩ := native
  rcases source with _ | _ | _ <;> exact ⟨rfl, rfl⟩

theorem corresponds_detach (twins : Twins difference app other)
    (shown : difference.hidden ≠ some address) :
    Twins difference (app.detach address).1 (other.detach address).1 ∧
      (other.detach address).2 = (app.detach address).2 := by
  have hhandler := twins.handlers address shown
  cases hget : app.host.handlers.get? address with
  | none =>
    rw [hget] at hhandler
    unfold detach Host.detach
    rw [hget, hhandler]
    exact ⟨twins, rfl⟩
  | some attached =>
    rw [hget] at hhandler
    rw [detach_of_get? hget, detach_of_get? hhandler]
    refine ⟨?_, rfl⟩
    have twins₁ := twins.setCells (app.machine.unhook attached.native.source)
    have twins₂ := twins₁.eraseTarget attached.native.target
    have twins₃ := twins₂.eraseHandler shown
    obtain ⟨happ, hother⟩ := twins.uninstall_eq attached.native
    rw [happ, hother]
    exact twins₃

theorem corresponds_detachRaw (twins : Twins difference app other) {roster : Roster p}
    (coherent : Coherent app roster) (hnull : address ≠ 0)
    (shown : difference.hidden ≠ some address) :
    Corresponds difference (app.detachRaw address) (other.detachRaw address) := by
  rcases twins.registry.remove (Difference.not_mem_lent shown) with ⟨hremove, hremove'⟩ |
    ⟨after, after', hremove, hremove', lends⟩
  · simp only [detachRaw, hnull, if_false, Host.takeBack, hremove, hremove']
    exact ⟨rfl, twins, rfl⟩
  · -- what was in the registry is the raw handle of a handler, and so it is in both applications
    have hmem : address ∈ app.host.registry.handles :=
      (Registry.perm_of_remove hremove).mem_iff.mp List.mem_cons_self
    obtain ⟨attachment, live, raw⟩ := (coherent.lists.mem_iff address).mp hmem
    have hheld := coherent.handler_of_isOut live raw
    have hheld' := (twins.handlers address shown).trans hheld
    have hbehind := coherent.oneAddress.handlerBehind? hheld
    have hbehind' := (twins.oneAddress coherent.oneAddress).handlerBehind? hheld'
    have hdetach := corresponds_detach
      ((twins.setRegistry lends).insertHandler shown ⟨⟨attachment.source, address⟩, none⟩) shown
    simp only [detachRaw, hnull, if_false, Host.takeBack, hremove, hremove', hbehind, hbehind',
      Host.reclaim, hheld, hheld']
    exact ⟨rfl, hdetach.1, hdetach.2⟩

theorem corresponds_drop (twins : Twins difference app other)
    (shown : difference.hidden ≠ some address) :
    Corresponds difference (app.step (.drop address)) (other.step (.drop address)) := by
  simp only [step, drop?, twins.handlers address shown]
  cases app.host.handlers.get? address with
  | none => exact ⟨rfl, twins, rfl⟩
  | some attached =>
    by_cases hraw : attached.raw.isSome
    · simp only [hraw, if_true]
      exact ⟨rfl, twins, rfl⟩
    · obtain ⟨twins', htrace⟩ := corresponds_detach twins shown
      simp only [hraw, Bool.false_eq_true, if_false, dropEvent, twins'.events, htrace]
      cases (app.detach address).1.events.get? address with
      | none => exact ⟨rfl, twins', rfl⟩
      | some event => exact ⟨rfl, twins'.setEvents rfl rfl, rfl⟩

/-! ### Faults -/

theorem context_of_fault {target : Target p} {crash : CrashContext} {outcome : DumpOutcome}
    {files : FileSystem} {n : Notification Address p.PathUnit}
    (h : (target.fault crash outcome files).report.notification = some n) :
    n.context = target.context := by
  unfold Target.fault at h
  split at h
  · cases h
    rfl
  · simp only [Bridge.deliverJoined] at h
    split at h
    · cases h
      rfl
    · cases h

/-- A report is passed on alike if it is addressed to a context that is the same. -/
theorem relay_congr {report : Report Address p.PathUnit}
    (same : ∀ n, report.notification = some n →
      other.host.contexts.get? n.context = app.host.contexts.get? n.context) :
    other.host.relay report = app.host.relay report := by
  unfold Host.relay
  cases h : report.notification with
  | none => rfl
  | some n =>
    simp only [Host.notify, same n h, Option.map_some]

theorem Twins.follow_eq (twins : Twins difference app other) (trace : Trace p) :
    other.follow trace = app.follow trace := by
  unfold follow invoke
  rw [twins.events]

/-- A handler that hooked something is not one that is attached in the first application alone. -/
theorem Twins.reaches (twins : Twins difference app other) {roster : Roster p}
    (coherent : Coherent app roster) {attachment : Attachment p}
    (live : roster.get? address = some attachment) (hooks : attachment.source ≠ none) :
    difference.Reaches address := by
  rintro handler raw rfl rfl
  have hhandler := coherent.handlers address
  rw [live, twins.kept.idle] at hhandler
  exact hooks (congrArg (·.native.source) (Option.some.inj hhandler)).symm

theorem corresponds_fault (twins : Twins difference app other) {roster : Roster p}
    (coherent : Coherent app roster) {attachment : Attachment p}
    (live : roster.get? address = some attachment) (hooks : attachment.source ≠ none)
    (crash : CrashContext) (outcome : DumpOutcome) :
    Corresponds difference (app.fault address crash outcome)
      (other.fault address crash outcome) := by
  have reaches := twins.reaches coherent live hooks
  obtain ⟨target, htarget, serves⟩ := coherent.serves live
  unfold fault Machine.fault
  rw [twins.target_eq reaches, twins.files, twins.ids, htarget]
  have twins' := (twins.setCells
    { app.machine with
      files := (target.fault crash outcome app.machine.files).files
      ids := app.machine.ids.advance }).insertTarget reaches (target.rename app.machine.ids.next)
  -- the report is addressed to the context of a handler that both have
  have hrelay : other.host.relay (target.fault crash outcome app.machine.files).report =
      app.host.relay (target.fault crash outcome app.machine.files).report :=
    relay_congr fun n hn => by
      rw [context_of_fault hn, serves.context]
      exact twins.context_eq reaches
  refine ⟨rfl, ?_, ?_⟩
  · obtain ⟨targets, contexts, handlers, registry, rfl⟩ := twins.exists_refit
    exact twins'
  · show other.follow (_ ++ other.host.relay _) = app.follow (_ ++ app.host.relay _)
    rw [hrelay, twins.follow_eq]

theorem corresponds_crash (twins : Twins difference app other) {roster : Roster p}
    (coherent : Coherent app roster) (crash : CrashContext) (outcome : DumpOutcome) :
    Corresponds difference (app.crash crash outcome) (other.crash crash outcome) := by
  unfold Application.crash
  rw [twins.crashHandler]
  cases hheld : app.machine.crashHandler with
  | none => exact ⟨rfl, twins, rfl⟩
  | some target =>
    obtain ⟨attachment, live, hsource⟩ := (coherent.crashHandler target).mp hheld
    exact corresponds_fault twins coherent live (by rw [hsource]; exact Option.some_ne_none _)
      crash outcome

/-- A crash is acted out on a handler that hooked the crash handler of the process, whoever holds
it. -/
theorem simulate_of_get? {source : Option FaultSource} {target : Address} {raw : Option Address}
    (h : app.host.handlers.get? handler = some ⟨⟨source, target⟩, raw⟩) (crash : CrashContext)
    (outcome : DumpOutcome) :
    app.simulate handler crash outcome =
      if source = some .crashHandler then app.fault target crash outcome
      else (none, app, []) := by
  unfold simulate
  rw [h]
  rcases source with _ | _ | _ <;> rfl

theorem simulate_of_absent (h : app.host.handlers.get? handler = none) (crash : CrashContext)
    (outcome : DumpOutcome) : app.simulate handler crash outcome = (none, app, []) := by
  unfold simulate
  rw [h]

theorem corresponds_simulate (twins : Twins difference app other) {roster : Roster p}
    (coherent : Coherent app roster) (handler : Address) (crash : CrashContext)
    (outcome : DumpOutcome) :
    Corresponds difference (app.simulate handler crash outcome)
      (other.simulate handler crash outcome) := by
  by_cases idle : ∃ raw, difference = .presence handler raw
  · -- neither application has a source hooked for the handler
    obtain ⟨raw, rfl⟩ := idle
    rw [simulate_of_absent twins.kept.native, simulate_of_get? twins.kept.idle,
      if_neg (Option.some_ne_none _).symm]
    exact ⟨rfl, twins, rfl⟩
  · have hnative : (other.host.handlers.get? handler).map (·.native) =
        (app.host.handlers.get? handler).map (·.native) := by
      by_cases hidden : difference.hidden = some handler
      · have kept := twins.kept
        cases difference with
        | none => cases hidden
        | holder _ =>
          cases hidden
          obtain ⟨native, happ, hother⟩ := kept.native
          rw [happ, hother]
          rfl
        | presence _ raw => cases hidden; exact absurd ⟨raw, rfl⟩ idle
      · rw [twins.handlers handler hidden]
    have hhandler := coherent.handlers handler
    cases live : roster.get? handler with
    | none =>
      rw [live] at hhandler
      rw [hhandler] at hnative
      rw [simulate_of_absent hhandler, simulate_of_absent (Option.map_eq_none_iff.mp hnative)]
      exact ⟨rfl, twins, rfl⟩
    | some attachment =>
      rw [live] at hhandler
      rw [hhandler] at hnative
      obtain ⟨⟨native, raw⟩, hother, rfl⟩ := Option.map_eq_some_iff.mp hnative
      rw [simulate_of_get? hhandler, simulate_of_get? hother]
      by_cases hsource : attachment.source = some .crashHandler
      · rw [if_pos hsource, if_pos hsource]
        exact corresponds_fault twins coherent live (by rw [hsource]; exact Option.some_ne_none _)
          crash outcome
      · rw [if_neg hsource, if_neg hsource]
        exact ⟨rfl, twins, rfl⟩

theorem corresponds_abort (twins : Twins difference app other) {roster : Roster p}
    (coherent : Coherent app roster) (task thread : UInt32) (outcome : DumpOutcome) :
    Corresponds difference (app.abort task thread outcome) (other.abort task thread outcome) := by
  unfold abort abortHook
  rw [twins.abortSignal]
  cases app.machine.abortSignal.action with
  | default => exact ⟨rfl, twins, rfl⟩
  | ignore => exact ⟨rfl, twins, rfl⟩
  | client => exact ⟨rfl, twins, rfl⟩
  | hook =>
    cases htarget : app.machine.abortSignal.target with
    | none => exact ⟨rfl, twins_setAbortSignal twins _, rfl⟩
    | some target =>
      obtain ⟨attachment, live, hsource⟩ := coherent.abortTarget htarget
      have corresponds := corresponds_fault twins coherent live
        (by rw [hsource]; exact Option.some_ne_none _) (.abort task thread) outcome
      dsimp only
      generalize app.fault _ _ _ = result, other.fault _ _ _ = result' at corresponds ⊢
      apply corresponds.map
      intro answer after after' trace twins
      refine ⟨?_, ?_, rfl⟩
      · rw [twins.abortSignal]
        rfl
      · rw [twins.abortSignal]
        exact twins_setAbortSignal twins _

/-! ## Steps and runs -/

/-- A step of twins is the same, if the event does not end the handler that differs and, where it
attaches one, has it at the same address. -/
theorem corresponds_step (twins : Twins difference app other) {roster : Roster p}
    (coherent : Coherent app roster) (event : Event p)
    (stays : ∀ handler, difference.hidden = some handler → event.ended? ≠ some handler)
    (same : ∀ preferred, event.preferred? = some preferred →
      other.host.nextAddress preferred = app.host.nextAddress preferred) :
    Corresponds difference (app.step event) (other.step event) := by
  have hanswer {C : Type} {result result' : C × Application p × Trace p}
      (corresponds : Corresponds difference result result') (reply : C → Reply) :
      Corresponds difference (reply result.1, result.2) (reply result'.1, result'.2) :=
    ⟨congrArg reply corresponds.answer, corresponds.twins, corresponds.trace⟩
  cases event with
  | attachRaw pointer length function userData options surroundings =>
    exact hanswer (corresponds_attachRaw twins pointer length (.client function userData)
      (.ofWord options) (same _ rfl)) .ofHandle
  | attachOwned directory function userData options surroundings =>
    exact hanswer (corresponds_attachOwned twins directory (.client function userData) options
      (same _ rfl)) .ofAttach
  | attachTyped directory choice event surroundings =>
    exact hanswer (corresponds_attachTyped twins directory choice event (same _ rfl)) .ofTypedAttach
  | detachRaw handle =>
    by_cases hnull : handle = 0
    · simp only [step, detachRaw, hnull, if_true]
      exact ⟨rfl, twins, rfl⟩
    · refine hanswer (corresponds_detachRaw twins coherent hnull fun hidden => ?_) .ofDetach
      exact stays handle hidden (if_neg hnull)
  | drop handler =>
    exact corresponds_drop twins fun hidden => stays handler hidden rfl
  | simulate handler crash outcome =>
    exact hanswer (corresponds_simulate twins coherent handler crash outcome) .ofFault
  | crash crash outcome =>
    exact hanswer (corresponds_crash twins coherent crash outcome) .ofFault
  | abort task thread outcome =>
    have corresponds := hanswer (corresponds_abort twins coherent task thread outcome)
      (.aborted app.machine.abortSignal.action)
    have haction := congrArg AbortSignal.action twins.abortSignal
    simp only [step, haction]
    exact corresponds
  | setAbortAction action =>
    refine ⟨rfl, ?_, rfl⟩
    simp only [step, twins.abortSignal]
    exact twins_setAbortSignal twins _
  | makeDirectories path =>
    simp only [step, twins.files]
    exact ⟨rfl, twins_setFiles twins _, rfl⟩
  | writeFile path contents =>
    simp only [step, twins.files]
    cases app.machine.files.writeFile path contents with
    | error cause => exact ⟨rfl, twins, rfl⟩
    | ok files => exact ⟨rfl, twins_setFiles twins files, rfl⟩
  | removeDirectories path =>
    simp only [step, twins.files]
    exact ⟨rfl, twins_setFiles twins _, rfl⟩

/-- Where the contexts are the same, a handler is attached at the same address. -/
theorem Twins.nextAddress_eq (twins : Twins difference app other)
    (everywhere : ∀ handler raw, difference ≠ .presence handler raw) (preferred : Address) :
    other.host.nextAddress preferred = app.host.nextAddress preferred := by
  refine Address.allocate_congr (fun address => ?_) preferred
  rw [Table.mem_keys_iff, Table.mem_keys_iff,
    twins.context_eq fun handler raw h => absurd h (everywhere handler raw)]

/-- Runs that begin with steps that correspond are the same if they go on alike. -/
theorem Corresponds.run_cons {event another : Event p} {rest others : List (Event p)}
    (corresponds : Corresponds difference (app.step event) (other.step another))
    (alike : ((other.after another).run others).2 = ((app.after event).run rest).2) :
    (other.run (another :: others)).2 = (app.run (event :: rest)).2 := by
  have hreply : other.replyTo another = app.replyTo event := corresponds.answer
  have hseen : other.seen another = app.seen event := corresponds.trace
  rw [Application.run_cons, Application.run_cons, hreply, hseen]
  exact congrArg ((app.replyTo event, app.seen event) :: ·) alike

/-- Where both applications have the handler that differs, runs that do not end it are the same. -/
theorem twins_run (twins : Twins difference app other) {roster : Roster p}
    (coherent : Coherent app roster) (everywhere : ∀ handler raw, difference ≠ .presence handler raw)
    (events : List (Event p))
    (stays : ∀ event ∈ events, ∀ handler, difference.hidden = some handler →
      event.ended? ≠ some handler) :
    (other.run events).2 = (app.run events).2 ∧
      Twins difference (app.afterAll events) (other.afterAll events) := by
  induction events generalizing app other roster with
  | nil => exact ⟨rfl, twins⟩
  | cons event rest ih =>
    have corresponds := corresponds_step twins coherent event (stays event List.mem_cons_self)
      fun preferred _ => twins.nextAddress_eq everywhere preferred
    obtain ⟨hrest, twins'⟩ := ih corresponds.twins (coherent_after coherent event)
      fun event hevent => stays event (List.mem_cons_of_mem _ hevent)
    exact ⟨corresponds.run_cons hrest, twins'⟩

end CrashDump.Application
