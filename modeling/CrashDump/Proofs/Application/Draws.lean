import CrashDump.Proofs.Application.Run

/-!
# Runs under other ids

What an application does depends on its source of ids only through the ids that are drawn.  Under
another source that draws the same ones, a run is answered and seen the same, and ends in the same
application, but for the source.

* `IdSource.Agree`: two sources draw the same ids for some turns.
* `Follows`: a computation goes the same way under another source, if that one draws the same ids.
* `follows_step`: a step does.
* `run_setIds`: and so does a run.
-/

namespace CrashDump

/-! ## Sources -/

namespace IdSource

/-- The source after some draws. -/
def advanceBy (source : IdSource) (turns : Nat) : IdSource :=
  { source with drawn := source.drawn + turns }

/-- For so many turns, the two sources draw the same ids. -/
def Agree (turns : Nat) (source other : IdSource) : Prop :=
  ∀ n < turns, other.id (other.drawn + n) = source.id (source.drawn + n)

variable {source other : IdSource} {first second : Nat}

theorem advanceBy_advanceBy (source : IdSource) (first second : Nat) :
    (source.advanceBy first).advanceBy second = source.advanceBy (first + second) := by
  unfold advanceBy
  rw [Nat.add_assoc]

theorem Agree.left (agree : Agree (first + second) source other) : Agree first source other :=
  fun n hn => agree n (by omega)

theorem Agree.right (agree : Agree (first + second) source other) :
    Agree second (source.advanceBy first) (other.advanceBy first) := by
  intro n hn
  have h := agree (first + n) (by omega)
  rw [← Nat.add_assoc, ← Nat.add_assoc] at h
  exact h

theorem Agree.next_eq (agree : Agree 1 source other) : other.next = source.next :=
  agree 0 Nat.zero_lt_one

end IdSource

variable {p : Platform}

/-- Hooking looks at no id. -/
theorem Machine.hook_setIds (machine : Machine p) (ids : IdSource) (refusal : Option Refusal)
    (target : Address) (source : Option FaultSource) :
    Machine.hook { machine with ids } refusal target source =
      (machine.hook refusal target source).map id ({ · with ids }) := by
  obtain ⟨_, _, _, crashHandler, _⟩ := machine
  rcases source with _ | _ | _
  · rfl
  · unfold hook
    cases refusal.bind Refusal.crashHandler? <;> cases crashHandler <;> rfl
  · rfl

namespace Application

variable {app : Application p} {source ids : IdSource} {A B : Type}

/-- The application with another source of ids. -/
def setIds (app : Application p) (ids : IdSource) : Application p :=
  app.setMachine { app.machine with ids }

/-- The first computation draws some ids from its source.  If the other source draws the same ones,
the second computation goes the same way. -/
def Follows (source ids : IdSource) (result other : A × Application p × Trace p) : Prop :=
  ∃ turns, result.2.1.machine.ids = source.advanceBy turns ∧
    (source.Agree turns ids →
      other = (result.1, result.2.1.setIds (ids.advanceBy turns), result.2.2))

namespace Follows

/-- A computation that draws nothing. -/
theorem of_eq {result other : A × Application p × Trace p}
    (kept : result.2.1.machine.ids = source)
    (same : other = (result.1, result.2.1.setIds ids, result.2.2)) :
    Follows source ids result other :=
  ⟨0, kept, fun _ => same⟩

/-- What is done to a result, whatever its ids. -/
theorem map {result other : A × Application p × Trace p}
    (follows : Follows source ids result other)
    (f : A × Application p × Trace p → B × Application p × Trace p)
    (kept : ∀ answer app trace, (f (answer, app, trace)).2.1.machine.ids = app.machine.ids)
    (commutes : ∀ answer app trace ids, f (answer, setIds app ids, trace) =
      ((f (answer, app, trace)).1, (f (answer, app, trace)).2.1.setIds ids,
        (f (answer, app, trace)).2.2)) :
    Follows source ids (f result) (f other) := by
  obtain ⟨turns, hids, hother⟩ := follows
  refine ⟨turns, (kept ..).trans hids, fun agree => ?_⟩
  rw [hother agree, commutes]

end Follows

/-! ## Attaching -/

/-- An attach whose directory leaves room for the name of a dump. -/
theorem attach_of_fits (app : Application p) (address : Address) {directory : List p.PathUnit}
    (context : HandlerContext) (options : InstallOptions) (refusal : Option Refusal)
    (fits : requiredUnits directory.length ≤ p.maxPathUnits) :
    app.attach address directory context options refusal =
      match app.machine.hook refusal address (FaultSource.ofOptions? p options) with
      | (.error cause, _) =>
        (.error cause, app.setIds app.machine.ids.advance,
          [.contextAllocated address, .contextFreed address])
      | (.ok (), hooked) =>
        (.ok (),
          { app with
            host :=
              { world :=
                  { hooked with
                    ids := app.machine.ids.advance
                    targets := hooked.targets.insert address
                      (Target.new directory address app.machine.ids.next) }
                contexts := app.host.contexts.insert address context
                handlers := app.host.handlers.insert address
                  ⟨⟨FaultSource.ofOptions? p options, address⟩, none⟩
                registry := app.host.registry } },
          [.contextAllocated address, .logged (.attached directory.length)]) := by
  have hnot : ¬ requiredUnits directory.length > p.maxPathUnits := Nat.not_lt.mpr fits
  have hhook := Machine.hook_setIds app.machine app.machine.ids.advance refusal address
    (FaultSource.ofOptions? p options)
  rcases hresult : app.machine.hook refusal address (FaultSource.ofOptions? p options) with
    ⟨cause | ⟨⟩, hooked⟩
  · obtain rfl := Machine.hook_of_error hresult
    rw [hresult] at hhook
    simp only [Application.machine, Prod.map, id] at hhook
    simp only [attach, Host.attach, hnot, if_false, Machine.installer, Machine.install, hhook,
      setIds, setMachine, Application.machine]
  · rw [hresult] at hhook
    simp only [Application.machine, Prod.map, id] at hhook
    simp only [attach, Host.attach, hnot, if_false, Machine.installer, Machine.install, hhook,
      Application.machine]

theorem follows_attach (app : Application p) (ids : IdSource) (address : Address)
    (directory : List p.PathUnit) (context : HandlerContext) (options : InstallOptions)
    (refusal : Option Refusal) :
    Follows app.machine.ids ids (app.attach address directory context options refusal)
      ((app.setIds ids).attach address directory context options refusal) := by
  by_cases hfits : requiredUnits directory.length ≤ p.maxPathUnits
  · have hhook : (app.setIds ids).machine.hook refusal address (FaultSource.ofOptions? p options) =
        (app.machine.hook refusal address (FaultSource.ofOptions? p options)).map id
          ({ · with ids }) := Machine.hook_setIds ..
    rw [attach_of_fits app address context options refusal hfits,
      attach_of_fits (app.setIds ids) address context options refusal hfits, hhook]
    rcases app.machine.hook refusal address (FaultSource.ofOptions? p options) with
      ⟨cause | ⟨⟩, hooked⟩
    · exact ⟨1, rfl, fun _ => rfl⟩
    · refine ⟨1, rfl, fun agree => ?_⟩
      have hnext : (app.setIds ids).machine.ids.next = app.machine.ids.next := agree.next_eq
      simp only [Prod.map, id, hnext]
      rfl
  · have htoo : requiredUnits directory.length > p.maxPathUnits := Nat.not_le.mp hfits
    refine .of_eq ?_ ?_
    · simp only [attach, Host.attach, htoo, if_true]
    · simp only [attach, Host.attach, htoo, if_true]

theorem follows_attachOwned (app : Application p) (ids : IdSource) (directory : List p.PathUnit)
    (context : HandlerContext) (options : InstallOptions) (surroundings : Surroundings) :
    Follows app.machine.ids ids (app.attachOwned directory context options surroundings)
      ((app.setIds ids).attachOwned directory context options surroundings) := by
  have haddress : (app.setIds ids).host.nextAddress surroundings.preferred =
      app.host.nextAddress surroundings.preferred := rfl
  have follows := follows_attach app ids (app.host.nextAddress surroundings.preferred) directory
    context options surroundings.refusal
  simp only [attachOwned, haddress]
  generalize app.attach _ _ _ _ _ = result, (app.setIds ids).attach _ _ _ _ _ = other at follows ⊢
  apply follows.map
  · intro answer after trace
    cases answer <;> rfl
  · intro answer after trace ids
    cases answer <;> rfl

theorem world_handOut (host : Host (Machine p) NativeHandler) (handler handle : Address) :
    (host.handOut handler handle).world = host.world := by
  unfold Host.handOut
  split
  · rfl
  · split <;> rfl

/-- Handing a handler out does not touch the machine. -/
theorem handOut_setIds (app : Application p) (ids : IdSource) (handler handle : Address) :
    { app.setIds ids with host := (app.setIds ids).host.handOut handler handle } =
      setIds { app with host := app.host.handOut handler handle } ids := by
  obtain ⟨⟨world, contexts, handlers, registry⟩, events, typedAttached⟩ := app
  unfold setIds setMachine Host.handOut
  simp only [Application.machine]
  cases handlers.get? handler with
  | none => rfl
  | some attached =>
    by_cases hraw : attached.raw.isSome
    · simp only [hraw, if_true]
    · simp only [hraw, Bool.false_eq_true, if_false]

theorem follows_attachRaw (app : Application p) (ids : IdSource)
    (pointer : Option (List p.PathUnit)) (length : Nat) (context : HandlerContext)
    (options : InstallOptions) (surroundings : Surroundings) :
    Follows app.machine.ids ids (app.attachRaw pointer length context options surroundings)
      ((app.setIds ids).attachRaw pointer length context options surroundings) := by
  unfold attachRaw
  cases readDirectory pointer length with
  | error cause => exact .of_eq rfl rfl
  | ok directory =>
    have follows := follows_attachOwned app ids directory context options surroundings
    dsimp only
    generalize app.attachOwned _ _ _ _ = result, (app.setIds ids).attachOwned _ _ _ _ = other
      at follows ⊢
    apply follows.map
    · intro answer after trace
      cases answer with
      | error cause => rfl
      | ok address => exact congrArg Machine.ids (world_handOut after.host address address)
    · intro answer after trace ids
      cases answer with
      | error cause => rfl
      | ok address => exact congrArg (some address, ·, trace) (handOut_setIds after ids address address)

theorem follows_attachCrashEvent (app : Application p) (ids : IdSource) (directory : Path)
    (choice : HandlerChoice) (event : UInt64) (surroundings : Surroundings) :
    Follows app.machine.ids ids (app.attachCrashEvent directory choice event surroundings)
      ((app.setIds ids).attachCrashEvent directory choice event surroundings) := by
  have hfiles : (app.setIds ids).machine.files = app.machine.files := rfl
  unfold attachCrashEvent
  rw [hfiles]
  cases app.machine.files.makeDirectories directory with
  | mk answer files =>
    cases answer with
    | error cause => exact .of_eq rfl rfl
    | ok =>
      have haddress : ((app.setIds ids).setFiles files).host.nextAddress surroundings.preferred =
          (app.setFiles files).host.nextAddress surroundings.preferred := rfl
      have follows := follows_attach (app.setFiles files) ids
        ((app.setFiles files).host.nextAddress surroundings.preferred) (p.codec.encode directory)
        (.crashEvent ((app.setFiles files).host.nextAddress surroundings.preferred)) choice.options
        surroundings.refusal
      have hsame : (app.setFiles files).setIds ids = (app.setIds ids).setFiles files := rfl
      rw [hsame] at follows
      simp only [haddress]
      generalize (app.setFiles files).attach _ _ _ _ _ = result,
        ((app.setIds ids).setFiles files).attach _ _ _ _ _ = other at follows ⊢
      apply follows.map
      · intro answer after trace
        cases answer <;> rfl
      · intro answer after trace ids
        cases answer <;> rfl

theorem follows_attachTyped (app : Application p) (ids : IdSource) (directory : Path)
    (choice : HandlerChoice) (event : UInt64) (surroundings : Surroundings) :
    Follows app.machine.ids ids (app.attachTyped directory choice event surroundings)
      ((app.setIds ids).attachTyped directory choice event surroundings) := by
  have hflag : (app.setIds ids).typedAttached = app.typedAttached := rfl
  unfold attachTyped
  rw [hflag]
  cases app.typedAttached with
  | true => exact .of_eq rfl rfl
  | false =>
    have follows := follows_attachCrashEvent { app with typedAttached := true } ids directory choice
      event surroundings
    have hsame : setIds { app with typedAttached := true } ids =
        { app.setIds ids with typedAttached := true } := rfl
    rw [hsame] at follows
    simp only [Bool.false_eq_true, if_false]
    generalize attachCrashEvent { app with typedAttached := true } _ _ _ _ = result,
      attachCrashEvent { app.setIds ids with typedAttached := true } _ _ _ _ = other at follows ⊢
    apply follows.map
    · intro answer after trace
      cases answer <;> rfl
    · intro answer after trace ids
      cases answer <;> rfl

/-! ## Detaching -/

theorem Machine.ids_unhook (machine : Machine p) (source : Option FaultSource) :
    (machine.unhook source).ids = machine.ids := by
  rcases source with _ | _ | _ <;> rfl

theorem Machine.unhook_setIds (machine : Machine p) (ids : IdSource)
    (source : Option FaultSource) :
    Machine.unhook { machine with ids } source = { machine.unhook source with ids } := by
  rcases source with _ | _ | _ <;> rfl

theorem ids_detach (app : Application p) (address : Address) :
    (app.detach address).1.machine.ids = app.machine.ids := by
  cases h : app.host.handlers.get? address with
  | none =>
    unfold detach Host.detach
    rw [h]
  | some attached =>
    rw [detach_of_get? h]
    exact Machine.ids_unhook ..

theorem detach_setIds (app : Application p) (ids : IdSource) (address : Address) :
    (app.setIds ids).detach address =
      ((app.detach address).1.setIds ids, (app.detach address).2) := by
  have hhandlers : (app.setIds ids).host.handlers = app.host.handlers := rfl
  cases h : app.host.handlers.get? address with
  | none =>
    unfold detach Host.detach
    rw [hhandlers, h]
    rfl
  | some attached =>
    have hunhook : (app.setIds ids).machine.unhook attached.native.source =
        { app.machine.unhook attached.native.source with ids } := Machine.unhook_setIds ..
    rw [detach_of_get? h, detach_of_get? (hhandlers ▸ h), Machine.uninstall, hunhook]
    rfl

theorem follows_detachRaw (app : Application p) (ids : IdSource) (handle : Address) :
    Follows app.machine.ids ids (app.detachRaw handle) ((app.setIds ids).detachRaw handle) := by
  by_cases hnull : handle = 0
  · simp only [detachRaw, hnull, if_true]
    exact .of_eq rfl rfl
  have hregistry : (app.setIds ids).host.registry = app.host.registry := rfl
  have hhandlers : (app.setIds ids).host.handlers = app.host.handlers := rfl
  have hbehind : (app.setIds ids).host.handlerBehind? handle = app.host.handlerBehind? handle := rfl
  simp only [detachRaw, hnull, if_false, Host.takeBack, hregistry, hbehind]
  cases app.host.registry.remove handle with
  | error misuse => exact .of_eq rfl rfl
  | ok registry =>
    cases hheld : app.host.handlerBehind? handle with
    | none => exact .of_eq rfl rfl
    | some handler =>
      obtain ⟨native, hget⟩ := Host.get?_of_handlerBehind? hheld
      have hdetach := detach_setIds
        { app with
          host :=
            { app.host with
              handlers := app.host.handlers.insert handler ⟨native, none⟩
              registry } } ids handler
      simp only [Host.reclaim, hhandlers, hget]
      exact .of_eq (ids_detach ..) (congrArg (Except.ok (), ·) hdetach)

theorem ids_dropEvent (app : Application p) (address : Address) :
    (app.dropEvent address).1.machine.ids = app.machine.ids := by
  unfold dropEvent
  cases app.events.get? address <;> rfl

theorem dropEvent_setIds (app : Application p) (ids : IdSource) (address : Address) :
    (app.setIds ids).dropEvent address =
      ((app.dropEvent address).1.setIds ids, (app.dropEvent address).2) := by
  have hevents : (app.setIds ids).events = app.events := rfl
  unfold dropEvent
  rw [hevents]
  cases app.events.get? address <;> rfl

theorem follows_drop (app : Application p) (ids : IdSource) (handler : Address) :
    Follows app.machine.ids ids (app.step (.drop handler))
      ((app.setIds ids).step (.drop handler)) := by
  have hhandlers : (app.setIds ids).host.handlers = app.host.handlers := rfl
  simp only [step, drop?, hhandlers]
  cases app.host.handlers.get? handler with
  | none => exact .of_eq rfl rfl
  | some attached =>
    by_cases hraw : attached.raw.isSome
    · simp only [hraw, if_true]
      exact .of_eq rfl rfl
    · simp only [hraw, Bool.false_eq_true, if_false, detach_setIds, dropEvent_setIds]
      exact .of_eq ((ids_dropEvent ..).trans (ids_detach ..)) rfl

/-! ## Faults -/

theorem follows_fault (app : Application p) (ids : IdSource) (target : Address)
    (crash : CrashContext) (outcome : DumpOutcome) :
    Follows app.machine.ids ids (app.fault target crash outcome)
      ((app.setIds ids).fault target crash outcome) := by
  have htargets : (app.setIds ids).machine.targets = app.machine.targets := rfl
  unfold fault Machine.fault
  rw [htargets]
  cases app.machine.targets.get? target with
  | none => exact .of_eq rfl rfl
  | some found =>
    refine ⟨1, rfl, fun agree => ?_⟩
    have hnext : (app.setIds ids).machine.ids.next = app.machine.ids.next := agree.next_eq
    rw [hnext]
    rfl

theorem follows_simulate (app : Application p) (ids : IdSource) (handler : Address)
    (crash : CrashContext) (outcome : DumpOutcome) :
    Follows app.machine.ids ids (app.simulate handler crash outcome)
      ((app.setIds ids).simulate handler crash outcome) := by
  have hhandlers : (app.setIds ids).host.handlers = app.host.handlers := rfl
  unfold simulate
  rw [hhandlers]
  split
  · exact follows_fault app ids _ crash outcome
  · exact .of_eq rfl rfl

theorem follows_crash (app : Application p) (ids : IdSource) (crash : CrashContext)
    (outcome : DumpOutcome) :
    Follows app.machine.ids ids (app.crash crash outcome)
      ((app.setIds ids).crash crash outcome) := by
  have hheld : (app.setIds ids).machine.crashHandler = app.machine.crashHandler := rfl
  unfold Application.crash
  rw [hheld]
  cases app.machine.crashHandler with
  | none => exact .of_eq rfl rfl
  | some target => exact follows_fault app ids target crash outcome

theorem follows_abort (app : Application p) (ids : IdSource) (task thread : UInt32)
    (outcome : DumpOutcome) :
    Follows app.machine.ids ids (app.abort task thread outcome)
      ((app.setIds ids).abort task thread outcome) := by
  have hsignal : (app.setIds ids).machine.abortSignal = app.machine.abortSignal := rfl
  unfold abort abortHook
  rw [hsignal]
  cases app.machine.abortSignal.action with
  | default => exact .of_eq rfl rfl
  | ignore => exact .of_eq rfl rfl
  | client => exact .of_eq rfl rfl
  | hook =>
    cases app.machine.abortSignal.target with
    | none => exact .of_eq rfl rfl
    | some target =>
      have follows := follows_fault app ids target (.abort task thread) outcome
      dsimp only
      generalize app.fault _ _ _ = result, (app.setIds ids).fault _ _ _ = other at follows ⊢
      apply follows.map
      · intro answer after trace
        rfl
      · intro answer after trace ids
        rfl

/-! ## Steps and runs -/

/-- A step goes the same way if it draws the same id, or none. -/
theorem follows_step (app : Application p) (ids : IdSource) (event : Event p) :
    Follows app.machine.ids ids (app.step event) ((app.setIds ids).step event) := by
  have hanswer {C : Type} {result other : C × Application p × Trace p}
      (follows : Follows app.machine.ids ids result other) (reply : C → Reply) :
      Follows app.machine.ids ids (reply result.1, result.2) (reply other.1, other.2) :=
    follows.map (fun result => (reply result.1, result.2)) (fun _ _ _ => rfl) fun _ _ _ _ => rfl
  cases event with
  | attachRaw pointer length function userData options surroundings =>
    exact hanswer (follows_attachRaw app ids pointer length (.client function userData)
      (.ofWord options) surroundings) .ofHandle
  | attachOwned directory function userData options surroundings =>
    exact hanswer (follows_attachOwned app ids directory (.client function userData) options
      surroundings) .ofAttach
  | attachTyped directory choice event surroundings =>
    exact hanswer (follows_attachTyped app ids directory choice event surroundings) .ofTypedAttach
  | detachRaw handle => exact hanswer (follows_detachRaw app ids handle) .ofDetach
  | drop handler => exact follows_drop app ids handler
  | simulate handler crash outcome =>
    exact hanswer (follows_simulate app ids handler crash outcome) .ofFault
  | crash crash outcome => exact hanswer (follows_crash app ids crash outcome) .ofFault
  | abort task thread outcome =>
    exact hanswer (follows_abort app ids task thread outcome)
      (.aborted app.machine.abortSignal.action)
  | setAbortAction action => exact .of_eq rfl rfl
  | makeDirectories path => exact .of_eq rfl rfl
  | writeFile path contents =>
    have hfiles : (app.setIds ids).machine.files = app.machine.files := rfl
    simp only [step, hfiles]
    cases app.machine.files.writeFile path contents with
    | error cause => exact .of_eq rfl rfl
    | ok files => exact .of_eq rfl rfl
  | removeDirectories path => exact .of_eq rfl rfl

theorem run_cons (app : Application p) (event : Event p) (rest : List (Event p)) :
    app.run (event :: rest) =
      (((app.after event).run rest).1,
        (app.replyTo event, app.seen event) :: ((app.after event).run rest).2) :=
  rfl

theorem run_append (app : Application p) (first second : List (Event p)) :
    app.run (first ++ second) =
      (((app.afterAll first).run second).1,
        (app.run first).2 ++ ((app.afterAll first).run second).2) := by
  induction first generalizing app with
  | nil => rfl
  | cons event rest ih =>
    rw [List.cons_append, run_cons, run_cons, ih]
    rfl

/-- A run goes the same way under every source that draws the same ids. -/
theorem run_setIds (app : Application p) (ids : IdSource) (events : List (Event p)) :
    ∃ turns, (app.afterAll events).machine.ids = app.machine.ids.advanceBy turns ∧
      (app.machine.ids.Agree turns ids →
        (app.setIds ids).run events =
          ((app.afterAll events).setIds (ids.advanceBy turns), (app.run events).2)) := by
  induction events generalizing app ids with
  | nil => exact ⟨0, rfl, fun _ => rfl⟩
  | cons event rest ih =>
    obtain ⟨first, hfirst, hstep⟩ := follows_step app ids event
    obtain ⟨second, hsecond, hrun⟩ := ih (app.after event) (ids.advanceBy first)
    have hafter : (app.after event).machine.ids = app.machine.ids.advanceBy first := hfirst
    rw [hafter] at hsecond hrun
    refine ⟨first + second, ?_, fun agree => ?_⟩
    · rw [afterAll_cons, hsecond, IdSource.advanceBy_advanceBy]
    · have hthis := hstep agree.left
      have hnext : (app.setIds ids).after event =
          (app.after event).setIds (ids.advanceBy first) := after_of_step hthis
      have hrest := hrun agree.right
      rw [IdSource.advanceBy_advanceBy] at hrest
      rw [run_cons, run_cons, replyTo_of_step hthis, seen_of_step hthis, hnext, hrest]
      rfl

end Application

end CrashDump
