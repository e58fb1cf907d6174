import CrashDump.Proofs.Application.Run
import CrashDump.Proofs.Lifetime.Contexts

/-!
# The registry and the raw handles that are out

The registry lists every raw handle that is out once, and nothing else.  Giving a handle back is
misuse exactly if it is not out, and misuse changes nothing.

What is out is said without a look at the registry, in three ways.  Of calls to a registry it is
what the calls themselves leave out, whatever addresses the allocator picks for handles, and even if
it picks one that was given back before.  Of a host it is what leads to an attached handler.  Of an
application it is what its clients know.

* `Host.Leads`: a handler was handed out, and is held by a raw handle.
* `Host.Registers`: the registry lists the raw handles that are out, and none leads to two handlers.
* `Host.Registers.attach` and its like: so it is after each operation.
* `Host.Registers.step` and `Host.registers_run`: so it is after steps and runs.
* `registry_lists_out`: what the registry lists after calls to it, in every host and in every
  application.
-/

namespace CrashDump

/-! ## What is out of a host -/

namespace Host

variable {p : Platform} {World Native Request : Type} {host after : Host World Native}
  {handle handler : Address} {attached : Attached Native}

/-- The handler was handed out as the raw handle, and not taken back yet. -/
def Leads (host : Host World Native) (handle handler : Address) : Prop :=
  ∃ native, host.handlers.get? handler = some ⟨native, some handle⟩

/-- The raw handle leads to some handler. -/
def IsOut (host : Host World Native) (handle : Address) : Prop :=
  ∃ handler, host.Leads handle handler

theorem leads_iff (h : host.handlers.get? handler = some attached) :
    host.Leads handle handler ↔ attached.raw = some handle := by
  obtain ⟨native, raw⟩ := attached
  simp [Leads, h]

theorem not_leads_of_owned (h : host.handlers.get? handler = some attached)
    (owned : attached.raw = none) : ¬ host.Leads handle handler := by
  rw [leads_iff h, owned]
  exact (Option.some_ne_none _).symm

theorem not_leads_of_absent (h : host.handlers.get? handler = none) :
    ¬ host.Leads handle handler := by
  simp [Leads, h]

/-- What leads where after something was filed for a handler. -/
theorem leads_of_insert (insert : after.handlers = host.handlers.insert handler attached)
    (handle other : Address) :
    after.Leads handle other ↔
      (other = handler ∧ attached.raw = some handle) ∨
        (other ≠ handler ∧ host.Leads handle other) := by
  by_cases h : other = handler
  · subst h
    rw [leads_iff (by rw [insert, Table.get?_insert_self])]
    simp
  · unfold Leads
    rw [insert, Table.get?_insert_of_ne _ _ h]
    simp [h]

/-- The registry lists the raw handles that are out, and none of them leads to two handlers. -/
structure Registers (host : Host World Native) : Prop where
  lists : host.registry.Lists host.IsOut
  alone : ∀ {handle first second}, host.Leads handle first → host.Leads handle second →
    first = second

theorem registers_initial (world : World) : Registers (.initial world : Host World Native) where
  lists := .empty fun handle => by
    rintro ⟨handler, native, h⟩
    cases h
  alone h := by
    obtain ⟨native, h⟩ := h
    cases h

namespace Registers

/-- It is enough that the same handles lead to the same handlers. -/
theorem congr (registers : Registers host) (registry : after.registry = host.registry)
    (same : ∀ handle other, after.Leads handle other ↔ host.Leads handle other) :
    Registers after where
  lists := by
    rw [registry]
    exact registers.lists.congr fun handle => exists_congr (same handle)
  alone h₁ h₂ := registers.alone ((same _ _).mp h₁) ((same _ _).mp h₂)

/-- What is behind a raw handle that is out. -/
theorem handlerBehind? (registers : Registers host) (leads : host.Leads handle handler) :
    host.handlerBehind? handle = some handler := by
  obtain ⟨native, held⟩ := leads
  exact handlerBehind?_of_get? held fun other native h => registers.alone ⟨native, h⟩ ⟨_, held⟩

end Registers

section

variable (installer : Installer p World Native Request)

/-! ## Steps of a host -/

/-- An attach hands nothing out. -/
theorem handlers_attach (request : Request) (address : Address) (directory : List p.PathUnit)
    (context : HandlerContext) (options : InstallOptions) (host : Host World Native) :
    let after := (host.attach installer request address directory context options).2.1
    after.registry = host.registry ∧ (after.handlers = host.handlers ∨
      ∃ native, after.handlers = host.handlers.insert address ⟨native, none⟩) := by
  unfold attach
  split
  · exact ⟨rfl, .inl rfl⟩
  · generalize installer.install _ _ _ _ _ = installed
    obtain ⟨cause | native, world⟩ := installed
    · exact ⟨rfl, .inl rfl⟩
    · exact ⟨rfl, .inr ⟨native, rfl⟩⟩

/-- The host after an attach, whatever the answer. -/
theorem after_attach (request : Request) (preferred : Address) (directory : List p.PathUnit)
    (context : HandlerContext) (options : InstallOptions) (host : Host World Native) :
    (host.step installer (.attach request preferred directory context options)).2.1 =
      (host.attach installer request (host.nextAddress preferred) directory context
        options).2.1 := by
  simp only [step]
  generalize host.attach installer _ _ _ _ _ = result
  obtain ⟨_ | ⟨⟩, after, trace⟩ := result <;> rfl

theorem leads_attach (owned : Owned host) (request : Request) (preferred : Address)
    (directory : List p.PathUnit) (context : HandlerContext) (options : InstallOptions)
    (handle other : Address) :
    Leads (host.step installer (.attach request preferred directory context options)).2.1 handle
        other ↔
      host.Leads handle other := by
  rw [after_attach]
  obtain ⟨-, hhandlers⟩ := handlers_attach installer request (host.nextAddress preferred)
    directory context options host
  rcases hhandlers with h | ⟨native, h⟩
  · rw [Leads, h, Leads]
  · rw [leads_of_insert h]
    by_cases hother : other = host.nextAddress preferred
    · have hfree : ¬ host.Leads handle other :=
        not_leads_of_absent (hother ▸ owned.nextAddress preferred)
      simp [hother, hother ▸ hfree]
    · simp [hother]

theorem Registers.attach (registers : Registers host) (owned : Owned host) (request : Request)
    (preferred : Address) (directory : List p.PathUnit) (context : HandlerContext)
    (options : InstallOptions) :
    Registers
      (host.step installer (.attach request preferred directory context options)).2.1 := by
  refine registers.congr ?_
    (leads_attach installer owned request preferred directory context options)
  rw [after_attach]
  exact (handlers_attach installer request (host.nextAddress preferred) directory context options
    host).1

theorem not_isOut_nextHandle (registers : Registers host) (preferred : Address) :
    ¬ host.IsOut (host.nextHandle preferred) := by
  rw [← registers.lists.mem_iff]
  exact Address.allocate_not_mem _ _

/-- A handler that its owner hands out is out as a handle that was not. -/
theorem step_handOut_of_owned (h : host.handlers.get? handler = some attached)
    (owned : attached.raw = none) (preferred : Address) :
    host.step installer (.handOut handler preferred) =
      (.handedOut (host.nextHandle preferred),
        { host with
          handlers := host.handlers.insert handler
            ⟨attached.native, some (host.nextHandle preferred)⟩
          registry := host.registry.insert (host.nextHandle preferred) }, []) := by
  simp only [step, handOut, h, owned, Option.isSome_none, Bool.false_eq_true, if_false]

/-- Nothing else can be handed out. -/
theorem step_handOut_of_not_owned
    (h : ∀ attached, host.handlers.get? handler = some attached → attached.raw ≠ none)
    (preferred : Address) :
    host.step installer (.handOut handler preferred) = (.absent, host, []) := by
  cases hget : host.handlers.get? handler with
  | none => simp only [step, hget]
  | some attached =>
    simp only [step, hget, Option.isSome_iff_ne_none.mpr (h attached hget), if_true]

/-- What leads where after a handler was handed out. -/
theorem leads_handOut (h : host.handlers.get? handler = some attached) (owned : attached.raw = none)
    (preferred other holder : Address) :
    (host.step installer (.handOut handler preferred)).2.1.Leads other holder ↔
      (other = host.nextHandle preferred ∧ holder = handler) ∨ host.Leads other holder := by
  rw [step_handOut_of_owned installer h owned, leads_of_insert rfl]
  by_cases hholder : holder = handler
  · subst hholder
    simp [not_leads_of_owned h owned, eq_comm]
  · simp [hholder]

theorem Registers.handOut (registers : Registers host) (handler preferred : Address) :
    Registers (host.step installer (.handOut handler preferred)).2.1 := by
  by_cases held : ∃ attached, host.handlers.get? handler = some attached ∧ attached.raw = none
  · obtain ⟨attached, h, owned⟩ := held
    have hfree := not_isOut_nextHandle registers preferred
    have leads := leads_handOut installer h owned preferred
    have hregistry : (host.step installer (.handOut handler preferred)).2.1.registry =
        host.registry.insert (host.nextHandle preferred) := by
      rw [step_handOut_of_owned installer h owned]
    constructor
    · rw [hregistry]
      refine (registers.lists.insert hfree).congr fun other => ?_
      simp only [IsOut, leads, exists_or, exists_and_left, exists_eq, and_true]
    · intro other first second h₁ h₂
      rw [leads] at h₁ h₂
      rcases h₁ with ⟨hother, rfl⟩ | h₁ <;> rcases h₂ with ⟨hother', rfl⟩ | h₂
      · rfl
      · exact absurd ⟨second, hother ▸ h₂⟩ hfree
      · exact absurd ⟨first, hother' ▸ h₁⟩ hfree
      · exact registers.alone h₁ h₂
  · rw [step_handOut_of_not_owned installer fun attached h owned => held ⟨attached, h, owned⟩]
    exact registers

/-- A raw handle is given back that is out. -/
theorem step_takeBack_of_leads (registers : Registers host) {native : Native}
    (held : host.handlers.get? handler = some ⟨native, some handle⟩) :
    ∃ registry : Registry,
      (handle :: registry.handles).Perm host.registry.handles ∧
      registry.Lists (fun other => other ≠ handle ∧ host.IsOut other) ∧
      host.step installer (.takeBack handle) =
        (.takenBack handler,
          { host with registry, handlers := host.handlers.insert handler ⟨native, none⟩ }, []) := by
  obtain ⟨registry, hremove, hperm, hlists⟩ := registers.lists.remove ⟨handler, native, held⟩
  have hbehind := registers.handlerBehind? ⟨native, held⟩
  refine ⟨registry, hperm, hlists, ?_⟩
  simp only [step, takeBack, hremove, hbehind, reclaim, held]

/-- A handle is given back that is not out. -/
theorem step_takeBack_of_not_isOut (registers : Registers host) (absent : ¬ host.IsOut handle) :
    host.step installer (.takeBack handle) = (.misuse ⟨handle⟩, host, []) := by
  simp only [step, takeBack, registers.lists.remove_eq_error absent]

/-- What leads where after a raw handle was taken back: all but this one. -/
theorem leads_takeBack (registers : Registers host) {native : Native}
    (held : host.handlers.get? handler = some ⟨native, some handle⟩)
    (other holder : Address) :
    (host.step installer (.takeBack handle)).2.1.Leads other holder ↔
      other ≠ handle ∧ host.Leads other holder := by
  have here (leads : host.Leads other holder) : holder = handler ↔ other = handle := by
    constructor
    · rintro rfl
      rw [leads_iff held] at leads
      exact (Option.some.inj leads).symm
    · rintro rfl
      exact registers.alone leads ⟨native, held⟩
  obtain ⟨registry, -, -, hstep⟩ := step_takeBack_of_leads installer registers held
  rw [hstep, leads_of_insert rfl]
  simp only [reduceCtorEq, and_false, false_or]
  exact and_congr_left fun leads => not_congr (here leads)

theorem Registers.takeBack (registers : Registers host) (handle : Address) :
    Registers (host.step installer (.takeBack handle)).2.1 := by
  by_cases out : host.IsOut handle
  · obtain ⟨handler, native, held⟩ := out
    obtain ⟨registry, -, hlists, hstep⟩ := step_takeBack_of_leads installer registers held
    have leads := leads_takeBack installer registers held
    have hregistry : (host.step installer (.takeBack handle)).2.1.registry = registry := by
      rw [hstep]
    constructor
    · rw [hregistry]
      refine hlists.congr fun other => ?_
      simp only [IsOut, leads, exists_and_left]
    · intro other first second h₁ h₂
      exact registers.alone ((leads other first).mp h₁).2 ((leads other second).mp h₂).2
  · rw [step_takeBack_of_not_isOut installer registers out]
    exact registers

/-- A handler comes to its end that is not held by a raw handle. -/
theorem leads_detach (absent : ∀ handle, ¬ host.Leads handle handler) (handle other : Address) :
    (host.detach installer handler).1.Leads handle other ↔ host.Leads handle other := by
  unfold detach
  split
  · rfl
  · by_cases h : other = handler
    · exact iff_of_false (by simp [Leads, h]) (h ▸ absent handle)
    · simp [Leads, h]

theorem registry_detach (host : Host World Native) (handler : Address) :
    (host.detach installer handler).1.registry = host.registry := by
  unfold detach
  split <;> rfl

/-- What comes to its end is a handler that is not held by a raw handle, or nothing. -/
theorem after_drop (host : Host World Native) (handler : Address) :
    (host.step installer (.drop handler)).2.1 = host ∨
      (∀ handle, ¬ host.Leads handle handler) ∧
        (host.step installer (.drop handler)).2.1 = (host.detach installer handler).1 := by
  cases hattached : host.handlers.get? handler with
  | none =>
    left
    simp only [step, hattached]
  | some attached =>
    cases hraw : attached.raw with
    | some handle =>
      left
      simp only [step, hattached, hraw, Option.isSome_some, if_true]
    | none =>
      right
      refine ⟨fun _ => not_leads_of_owned hattached hraw, ?_⟩
      simp only [step, hattached, hraw, Option.isSome_none, Bool.false_eq_true, if_false]

theorem leads_drop (handler handle other : Address) :
    (host.step installer (.drop handler)).2.1.Leads handle other ↔ host.Leads handle other := by
  rcases after_drop installer host handler with h | ⟨absent, h⟩
  · rw [h]
  · rw [h]
    exact leads_detach installer absent handle other

theorem Registers.drop (registers : Registers host) (handler : Address) :
    Registers (host.step installer (.drop handler)).2.1 := by
  refine registers.congr ?_ (leads_drop installer handler)
  rcases after_drop installer host handler with h | ⟨-, h⟩
  · rw [h]
  · rw [h]
    exact registry_detach installer host handler

/-- Whatever the event, the registry lists what is out afterwards. -/
theorem Registers.step (registers : Registers host) (owned : Owned host)
    (event : Event p Request) : Registers (host.step installer event).2.1 := by
  cases event with
  | attach request preferred directory context options =>
    exact registers.attach installer owned request preferred directory context options
  | fault handler delivery =>
    simp only [Host.step]
    split <;> exact registers
  | handOut handler preferred => exact registers.handOut installer handler preferred
  | takeBack handle => exact registers.takeBack installer handle
  | drop handler => exact registers.drop installer handler

/-! ## Runs of a host -/

theorem registers_run (registers : Registers host) (owned : Owned host)
    (events : List (Event p Request)) :
    Registers (host.run installer events).1 ∧ Owned (host.run installer events).1 := by
  induction events generalizing host with
  | nil => exact ⟨registers, owned⟩
  | cons event rest ih =>
    exact ih (registers.step installer owned event) (inOrder_step installer owned event).owned

/-- In every run that starts without handlers. -/
theorem registers_run_initial (world : World) (events : List (Event p Request)) :
    Registers (Host.run installer (.initial world) events).1 ∧
      Owned (Host.run installer (.initial world) events).1 :=
  registers_run installer (registers_initial world) (fun _ => iff_of_true rfl rfl) events

end

end Host

/-! ## All of them -/

/-- The registry lists the raw handles that are out: after all calls to it in which the allocator
picks no address that is out, in every run of a host, whatever its installer, and in every run of an
application.  A handle that is given back and is not out is misuse, which changes nothing.  One that
is out is struck out, and no other. -/
theorem registry_lists_out :
    (∀ calls, Registry.Call.GrantsAll ∅ calls →
      let registry := Registry.empty.performAll calls
      registry.Lists (· ∈ Registry.Call.leavesAll ∅ calls) ∧
      ∀ handle,
        (handle ∉ Registry.Call.leavesAll ∅ calls →
          registry.perform (.takeBack handle) = (.error ⟨handle⟩, registry)) ∧
        (handle ∈ Registry.Call.leavesAll ∅ calls → ∃ after : Registry,
          (handle :: after.handles).Perm registry.handles ∧
          registry.perform (.takeBack handle) = (.ok (), after))) ∧
    (∀ (p : Platform) (World Native Request : Type) (installer : Installer p World Native Request)
      (world : World) (events : List (Host.Event p Request)),
      let host := (Host.run installer (.initial world) events).1
      host.registry.Lists host.IsOut ∧
      ∀ handle,
        (¬ host.IsOut handle →
          host.step installer (.takeBack handle) = (.misuse ⟨handle⟩, host, [])) ∧
        (∀ handler native, host.handlers.get? handler = some ⟨native, some handle⟩ →
          ∃ registry : Registry, (handle :: registry.handles).Perm host.registry.handles ∧
            host.step installer (.takeBack handle) =
              (.takenBack handler,
                { host with
                  registry, handlers := host.handlers.insert handler ⟨native, none⟩ }, []))) ∧
    ∀ (p : Platform) (files : FileSystem) (ids : IdSource) (events : List (Application.Event p)),
      let app := Application.afterRun files ids events
      let roster := Roster.afterRun files ids events
      app.host.registry.Lists roster.IsOut ∧
      app.step (.detachRaw 0) = (.done, app, []) ∧
      ∀ handle, handle ≠ 0 →
        (¬ roster.IsOut handle →
          app.step (.detachRaw handle) = (.misuse ⟨handle⟩, app, [])) ∧
        (∀ attachment, roster.get? handle = some attachment → attachment.raw = true →
          ∃ registry : Registry, (handle :: registry.handles).Perm app.host.registry.handles ∧
            app.step (.detachRaw handle) =
              (.done, app.dismiss registry handle attachment,
                [.uninstalled handle, .contextFreed handle, .logged .detached])) := by
  refine ⟨?_, ?_, ?_⟩
  · intro calls grants registry
    have lists : registry.Lists (· ∈ Registry.Call.leavesAll ∅ calls) :=
      Registry.lists_performAll (.empty fun handle => Finset.notMem_empty handle) grants
    refine ⟨lists, fun handle => ⟨fun absent => ?_, fun present => ?_⟩⟩
    · simp only [Registry.perform, lists.remove_eq_error absent]
    · obtain ⟨after, hremove, hperm, -⟩ := lists.remove present
      exact ⟨after, hperm, by simp only [Registry.perform, hremove]⟩
  · intro p World Native Request installer world events host
    have registers : host.Registers := (Host.registers_run_initial installer world events).1
    refine ⟨registers.lists, fun handle =>
      ⟨Host.step_takeBack_of_not_isOut installer registers, ?_⟩⟩
    intro handler native held
    obtain ⟨registry, hperm, -, hstep⟩ := Host.step_takeBack_of_leads installer registers held
    exact ⟨registry, hperm, hstep⟩
  · intro p files ids events app roster
    have coherent : Application.Coherent app roster := Application.coherent_afterRun files ids events
    refine ⟨coherent.lists, Application.step_detachRaw_zero app, fun handle nonnull =>
      ⟨Application.step_detachRaw_of_not_isOut coherent nonnull, ?_⟩⟩
    intro attachment live raw
    obtain ⟨registry, hperm, -, hstep⟩ :=
      Application.step_detachRaw_of_isOut coherent nonnull live raw
    exact ⟨registry, hperm, hstep⟩

/-- An address is given out again, and given back once too often; a handle that a client holds is
given back twice, and the address of a handler is given back to a host in place of its handle. -/
theorem registry_lists_out_reused :
    let calls : List Registry.Call := [.handOut 8, .handOut 9, .takeBack 8, .handOut 8, .takeBack 9]
    let files := FileSystem.ofWorkingDirectory []
    let ids := IdSource.fromSeed 0
    let installer := Machine.installer .windows
    let host := (Host.run installer (.initial (.initial .windows files ids))
      [.attach none 0x10 [] (.client 7 9) ⟨true, true⟩, .handOut 0x10 0x20]).1
    let events : List (Application.Event .mac) :=
      [.attachRaw none 0 7 9 2 ⟨none, 0x10⟩, .attachRaw none 0 7 9 1 ⟨none, 0x20⟩, .detachRaw 0x10]
    let app := Application.afterRun files ids events
    Registry.Call.GrantsAll ∅ calls ∧
      Registry.perform ⟨[8]⟩ (.takeBack 9) = (.error ⟨9⟩, ⟨[8]⟩) ∧
      host.step installer (.takeBack 0x10) = (.misuse ⟨0x10⟩, host, []) ∧
      (host.step installer (.takeBack 0x20)).1 = .takenBack 0x10 ∧
      app.step (.detachRaw 0x10) = (.misuse ⟨0x10⟩, app, []) ∧
      (∃ registry : Registry, (0x20 :: registry.handles).Perm [0x20] ∧
        app.replyTo (.detachRaw 0x20) = .done ∧
        (app.after (.detachRaw 0x20)).host.registry = registry) := by
  intro calls files ids installer host events app
  obtain ⟨hcalls, hhost, happ⟩ := registry_lists_out
  have grants : Registry.Call.GrantsAll ∅ calls := by decide
  have absent : 9 ∉ Registry.Call.leavesAll ∅ calls := by decide
  obtain ⟨lists, htakeBack⟩ := hhost _ _ _ _ installer (.initial .windows files ids)
    [.attach none 0x10 [] (.client 7 9) ⟨true, true⟩, .handOut 0x10 0x20]
  -- the handler has another address than its raw handle
  have unlisted : ¬ host.IsOut 0x10 := by
    rw [← lists.mem_iff]
    decide
  obtain ⟨_, -, htaken⟩ := (htakeBack 0x20).2 0x10 _ rfl
  obtain ⟨-, -, hdetach⟩ := happ .mac files ids events
  have given : ((Roster.afterRun files ids events).get? 0x10).isNone = true := by decide +kernel
  have gone : ¬ (Roster.afterRun files ids events).IsOut 0x10 := by
    rintro ⟨attachment, live, -⟩
    rw [live] at given
    cases given
  have held : ((Roster.afterRun files ids events).get? 0x20).map (·.raw) = some true := by
    decide +kernel
  obtain ⟨attachment, live, raw⟩ := Option.map_eq_some_iff.mp held
  obtain ⟨registry, hperm, hstep⟩ := (hdetach 0x20 (by decide)).2 attachment live raw
  have listed : app.host.registry.handles = [0x20] := by decide +kernel
  refine ⟨grants, ((hcalls calls grants).2 9).1 absent, (htakeBack 0x10).1 unlisted,
    congrArg (·.1) htaken, (hdetach 0x10 (by decide)).1 gone, registry, listed ▸ hperm, ?_, ?_⟩
  · exact Application.replyTo_of_step hstep
  · rw [Application.after_of_step hstep]
    rfl

end CrashDump
