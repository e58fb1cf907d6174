import CrashDump.Proofs.Application.Draws

/-!
# Two applications that differ in one handler

There are two ways for two applications to differ in one handler.  One is in who holds it: it was
handed out as a raw handle in the first application, and is owned in the second.  The other is in
whether it is attached at all, if it hooks nothing.

* `Table.AgreesOff`: two tables agree but for what is filed under one key.
* `Registry.Lends`: in one of two registries, some more handles are out.
* `Difference` and `Twins`: in what two applications differ, and that they are equal otherwise.
* `Twins.setCells` and its like: what is done to both applications keeps them twins.  There is one
  lemma for each table.
-/

namespace CrashDump

/-! ## Tables and registries -/

namespace Table

variable {K V : Type} [DecidableEq K] {hidden : Option K} {table other : Table K V}

/-- What is filed in the tables is the same, but perhaps for one key. -/
def AgreesOff (hidden : Option K) (table other : Table K V) : Prop :=
  ∀ key, hidden ≠ some key → other.get? key = table.get? key

theorem AgreesOff.refl (hidden : Option K) (table : Table K V) : AgreesOff hidden table table :=
  fun _ _ => rfl

theorem AgreesOff.insert (agrees : AgreesOff hidden table other) (key : K) (value : V) :
    AgreesOff hidden (table.insert key value) (other.insert key value) := by
  intro another h
  rw [get?_insert, get?_insert, agrees another h]

theorem AgreesOff.erase (agrees : AgreesOff hidden table other) (key : K) :
    AgreesOff hidden (table.erase key) (other.erase key) := by
  intro another h
  rw [get?_erase, get?_erase, agrees another h]

/-- Under that key, anything may be filed in one of them. -/
theorem agreesOff_insert (table : Table K V) (key : K) (value : V) :
    AgreesOff (some key) (table.insert key value) table := by
  intro another h
  rw [get?_insert_of_ne table value fun he => h (congrArg some he.symm)]

/-- Once nothing is filed under it, the tables agree on all keys. -/
theorem AgreesOff.erase_self {key : K} (agrees : AgreesOff (some key) table other) :
    AgreesOff none (table.erase key) (other.erase key) := by
  intro another _
  rw [get?_erase, get?_erase]
  split
  · rfl
  · rename_i h
    exact agrees another fun he => h (Option.some.inj he).symm

/-- So they do once nothing is filed under it in the first one, if nothing is in the other. -/
theorem AgreesOff.erase_left {key : K} (agrees : AgreesOff (some key) table other)
    (absent : other.get? key = none) : AgreesOff none (table.erase key) other := by
  intro another _
  rw [get?_erase]
  split
  · rename_i h
    rw [h, absent]
  · rename_i h
    exact agrees another fun he => h (Option.some.inj he).symm

end Table

namespace Registry

variable {lent : List Address} {registry other : Registry}

/-- In the first registry, besides the handles of the other, these are out. -/
def Lends (lent : List Address) (registry other : Registry) : Prop :=
  (lent ++ other.handles).Perm registry.handles

theorem Lends.insert (lends : Lends lent registry other) (handle : Address) :
    Lends lent (registry.insert handle) (other.insert handle) := by
  unfold Lends Registry.insert
  rw [← List.append_assoc]
  exact List.Perm.append_right [handle] lends

/-- Any other handle that can be given back to one of them can be given back to the other. -/
theorem Lends.remove (lends : Lends lent registry other) {handle : Address}
    (kept : handle ∉ lent) :
    (registry.remove handle = .error ⟨handle⟩ ∧ other.remove handle = .error ⟨handle⟩) ∨
    ∃ after after', registry.remove handle = .ok after ∧ other.remove handle = .ok after' ∧
      Lends lent after after' := by
  -- a handle that is not lent is out in both registries, or in neither
  have hmem : handle ∈ registry.handles ↔ handle ∈ other.handles := by
    rw [← List.Perm.mem_iff lends, List.mem_append, or_iff_right kept]
  by_cases h : handle ∈ registry.handles
  · right
    cases hremove : registry.remove handle with
    | error misuse => exact absurd h (remove_eq_error_iff.mp hremove).1
    | ok after =>
      cases hremove' : other.remove handle with
      | error misuse => exact absurd (hmem.mp h) (remove_eq_error_iff.mp hremove').1
      | ok after' =>
        refine ⟨after, after', rfl, rfl, ?_⟩
        have hback : (lent ++ handle :: after'.handles).Perm (handle :: after.handles) :=
          (List.Perm.append_left lent (perm_of_remove hremove')).trans
            (lends.trans (perm_of_remove hremove).symm)
        exact (List.perm_middle.symm.trans hback).cons_inv
  · left
    exact ⟨remove_eq_error_iff.mpr ⟨h, rfl⟩, remove_eq_error_iff.mpr ⟨mt hmem.mpr h, rfl⟩⟩

/-- A handle that is out in the first registry alone can be given back to that one. -/
theorem Lends.exists_remove {handle : Address} (lends : Lends [handle] registry other) :
    ∃ after, registry.remove handle = .ok after ∧ Lends [] after other := by
  cases hremove : registry.remove handle with
  | error misuse =>
    exact absurd (lends.mem_iff.mp List.mem_cons_self) (remove_eq_error_iff.mp hremove).1
  | ok after => exact ⟨after, rfl, (lends.trans (perm_of_remove hremove).symm).cons_inv⟩

end Registry

namespace Address

/-- The largest address in use depends on which are, and on nothing else. -/
theorem foldr_max_le {used : List Address} {bound : Address} (h : ∀ a ∈ used, a ≤ bound) :
    used.foldr max 0 ≤ bound := by
  induction used with
  | nil => exact Nat.zero_le bound
  | cons first rest ih =>
    exact Nat.max_le.mpr ⟨h first List.mem_cons_self,
      ih fun a ha => h a (List.mem_cons_of_mem first ha)⟩

/-- An allocator looks at which addresses are in use, not at their order. -/
theorem allocate_congr {used others : List Address} (h : ∀ a, a ∈ others ↔ a ∈ used)
    (preferred : Address) : allocate preferred others = allocate preferred used := by
  have hmax : others.foldr max 0 = used.foldr max 0 :=
    Nat.le_antisymm (foldr_max_le fun a ha => le_foldr_max ((h a).mp ha))
      (foldr_max_le fun a ha => le_foldr_max ((h a).mpr ha))
  simp only [allocate, hmax, h preferred]

end Address

variable {p : Platform}

/-- Hooking looks at no target. -/
theorem Machine.hook_setTargets (machine : Machine p) (targets : Table Address (Target p))
    (refusal : Option Refusal) (target : Address) (source : Option FaultSource) :
    Machine.hook { machine with targets } refusal target source =
      (machine.hook refusal target source).map id ({ · with targets }) := by
  obtain ⟨_, _, _, crashHandler, _⟩ := machine
  rcases source with _ | _ | _
  · rfl
  · unfold hook
    cases refusal.bind Refusal.crashHandler? <;> cases crashHandler <;> rfl
  · rfl

namespace Application

/-! ## Twins -/

/-- In what two applications differ. -/
inductive Difference where
  | none
  /-- In who holds the handler at an address. -/
  | holder (handler : Address)
  /-- In whether there is a handler at an address, held as a raw handle or owned. -/
  | presence (handler : Address) (raw : Bool)
deriving DecidableEq, Repr

namespace Difference

/-- The handler that may differ. -/
def hidden : Difference → Option Address
  | none => .none
  | holder handler => some handler
  | presence handler _ => some handler

/-- The raw handles that are out in the first application alone. -/
def lent : Difference → List Address
  | none => []
  | holder handler => [handler]
  | presence handler raw => if raw then [handler] else []

/-- The handler at the address is not one that is attached in the first application alone. -/
def Reaches (difference : Difference) (address : Address) : Prop :=
  ∀ handler raw, difference = presence handler raw → address ≠ handler

variable {difference : Difference} {address : Address}

theorem reaches_of_shown (shown : difference.hidden ≠ some address) :
    difference.Reaches address := by
  rintro handler raw rfl rfl
  exact shown rfl

theorem ne_of_shown {handler : Address} (hidden : difference.hidden = some handler)
    (shown : difference.hidden ≠ some address) : handler ≠ address := by
  rintro rfl
  exact shown hidden

theorem not_mem_lent (shown : difference.hidden ≠ some address) : address ∉ difference.lent := by
  intro h
  cases difference with
  | none => cases h
  | holder handler =>
    obtain rfl := List.mem_singleton.mp h
    exact shown rfl
  | presence handler raw =>
    cases raw with
    | false => cases h
    | true =>
      obtain rfl := List.mem_singleton.mp h
      exact shown rfl

end Difference

variable {app other : Application p} {difference : Difference} {handler address : Address}
  {raw : Bool}

/-- The handler is attached in both applications: handed out in the first one, owned in the
second. -/
structure Shared (app other : Application p) (handler : Address) : Prop where
  attached : app.host.contexts.get? handler ≠ none
  context : other.host.contexts.get? handler = app.host.contexts.get? handler
  target : other.machine.targets.get? handler = app.machine.targets.get? handler
  native : ∃ native, app.host.handlers.get? handler = some ⟨native, some handler⟩ ∧
    other.host.handlers.get? handler = some ⟨native, none⟩

/-- The handler is attached in the first application alone, and hooks nothing there. -/
structure Extra (app other : Application p) (handler : Address) (raw : Bool) : Prop where
  attached : app.host.contexts.get? handler ≠ none
  idle : app.host.handlers.get? handler =
    some ⟨⟨none, handler⟩, if raw then some handler else none⟩
  context : other.host.contexts.get? handler = none
  target : other.machine.targets.get? handler = none
  native : other.host.handlers.get? handler = none

/-- What can be said of the handler that differs. -/
def Difference.Kept (app other : Application p) : Difference → Prop
  | none => True
  | holder handler => Shared app other handler
  | presence handler raw => Extra app other handler raw

/-- The applications are equal but for the difference, and for the order in which the handles are
registered. -/
structure Twins (difference : Difference) (app other : Application p) : Prop where
  machine : other.machine = { app.machine with targets := other.machine.targets }
  targets : Table.AgreesOff difference.hidden app.machine.targets other.machine.targets
  contexts : Table.AgreesOff difference.hidden app.host.contexts other.host.contexts
  handlers : Table.AgreesOff difference.hidden app.host.handlers other.host.handlers
  registry : Registry.Lends difference.lent app.host.registry other.host.registry
  events : other.events = app.events
  typedAttached : other.typedAttached = app.typedAttached
  kept : difference.Kept app other

namespace Twins

theorem files (twins : Twins difference app other) :
    other.machine.files = app.machine.files := by
  rw [twins.machine]

theorem ids (twins : Twins difference app other) : other.machine.ids = app.machine.ids := by
  rw [twins.machine]

theorem crashHandler (twins : Twins difference app other) :
    other.machine.crashHandler = app.machine.crashHandler := by
  rw [twins.machine]

theorem abortSignal (twins : Twins difference app other) :
    other.machine.abortSignal = app.machine.abortSignal := by
  rw [twins.machine]

/-- A handler that differs is attached. -/
theorem attached (twins : Twins difference app other) (hidden : difference.hidden = some handler) :
    app.host.contexts.get? handler ≠ none := by
  have kept := twins.kept
  cases difference with
  | none => cases hidden
  | holder => cases hidden; exact kept.attached
  | presence => cases hidden; exact kept.attached

/-- Each raw handle has the address of the handler behind it, in both applications or neither. -/
theorem oneAddress (twins : Twins difference app other) (one : app.OneAddress) :
    other.OneAddress := by
  intro handler native handle held
  by_cases hidden : difference.hidden = some handler
  · have kept := twins.kept
    cases difference with
    | none => cases hidden
    | holder =>
      cases hidden
      obtain ⟨another, -, howned⟩ := kept.native
      rw [howned] at held
      cases held
    | presence =>
      cases hidden
      rw [kept.native] at held
      cases held
  · rw [twins.handlers handler hidden] at held
    exact one _ _ _ held

/-- So it is not attached a second time. -/
theorem ne_of_free (twins : Twins difference app other)
    (free : app.host.contexts.get? address = none) : difference.hidden ≠ some address :=
  fun hidden => twins.attached hidden free

/-- Where a handler is not attached in the first application alone, the targets are the same. -/
theorem target_eq (twins : Twins difference app other)
    (reaches : difference.Reaches address) :
    other.machine.targets.get? address = app.machine.targets.get? address := by
  by_cases hidden : difference.hidden = some address
  · have kept := twins.kept
    cases difference with
    | none => cases hidden
    | holder handler => cases hidden; exact kept.target
    | presence handler raw => cases hidden; exact absurd rfl (reaches _ _ rfl)
  · exact twins.targets address hidden

/-- And so are the contexts. -/
theorem context_eq (twins : Twins difference app other)
    (reaches : difference.Reaches address) :
    other.host.contexts.get? address = app.host.contexts.get? address := by
  by_cases hidden : difference.hidden = some address
  · have kept := twins.kept
    cases difference with
    | none => cases hidden
    | holder handler => cases hidden; exact kept.context
    | presence handler raw => cases hidden; exact absurd rfl (reaches _ _ rfl)
  · exact twins.contexts address hidden

/-! ### What steps do to tables and cells -/

/-- What is filed for a handler is left alone. -/
structure SameAt (handler : Address) (app after : Application p) : Prop where
  context : after.host.contexts.get? handler = app.host.contexts.get? handler
  target : after.machine.targets.get? handler = app.machine.targets.get? handler
  native : after.host.handlers.get? handler = app.host.handlers.get? handler

theorem kept_of_same (twins : Twins difference app other) {after after' : Application p}
    (same : ∀ handler, difference.hidden = some handler →
      SameAt handler app after ∧ SameAt handler other after') :
    difference.Kept after after' := by
  have kept := twins.kept
  cases difference with
  | none => trivial
  | holder handler =>
    obtain ⟨first, second⟩ := same handler rfl
    refine ⟨?_, ?_, ?_, ?_⟩
    · rw [first.context]
      exact kept.attached
    · rw [first.context, second.context]
      exact kept.context
    · rw [first.target, second.target]
      exact kept.target
    · rw [first.native, second.native]
      exact kept.native
  | presence handler raw =>
    obtain ⟨first, second⟩ := same handler rfl
    refine ⟨?_, ?_, ?_, ?_, ?_⟩
    · rw [first.context]
      exact kept.attached
    · rw [first.native]
      exact kept.idle
    · rw [second.context]
      exact kept.context
    · rw [second.target]
      exact kept.target
    · rw [second.native]
      exact kept.native

theorem setCells (twins : Twins difference app other) (machine : Machine p) :
    Twins difference (app.setMachine { machine with targets := app.machine.targets })
      (other.setMachine { machine with targets := other.machine.targets }) where
  machine := rfl
  targets := twins.targets
  contexts := twins.contexts
  handlers := twins.handlers
  registry := twins.registry
  events := twins.events
  typedAttached := twins.typedAttached
  kept := twins.kept_of_same fun _ _ => ⟨⟨rfl, rfl, rfl⟩, ⟨rfl, rfl, rfl⟩⟩

theorem setRegistry (twins : Twins difference app other) {registry registry' : Registry}
    (lends : Registry.Lends difference.lent registry registry') :
    Twins difference { app with host := { app.host with registry } }
      { other with host := { other.host with registry := registry' } } where
  machine := twins.machine
  targets := twins.targets
  contexts := twins.contexts
  handlers := twins.handlers
  registry := lends
  events := twins.events
  typedAttached := twins.typedAttached
  kept := twins.kept_of_same fun _ _ => ⟨⟨rfl, rfl, rfl⟩, ⟨rfl, rfl, rfl⟩⟩

/-- Crash events are kept apart from all else. -/
theorem setEvents (twins : Twins difference app other) {events events' : Table Address UInt64}
    {typedAttached typedAttached' : Bool} (sameEvents : events' = events)
    (sameTyped : typedAttached' = typedAttached) :
    Twins difference { app with events, typedAttached }
      { other with events := events', typedAttached := typedAttached' } where
  machine := twins.machine
  targets := twins.targets
  contexts := twins.contexts
  handlers := twins.handlers
  registry := twins.registry
  events := sameEvents
  typedAttached := sameTyped
  kept := twins.kept_of_same fun _ _ => ⟨⟨rfl, rfl, rfl⟩, ⟨rfl, rfl, rfl⟩⟩

theorem insertHandler (twins : Twins difference app other)
    (shown : difference.hidden ≠ some address) (attached : Attached NativeHandler) :
    Twins difference
      { app with
        host := { app.host with handlers := app.host.handlers.insert address attached } }
      { other with
        host := { other.host with handlers := other.host.handlers.insert address attached } } where
  machine := twins.machine
  targets := twins.targets
  contexts := twins.contexts
  handlers := twins.handlers.insert address attached
  registry := twins.registry
  events := twins.events
  typedAttached := twins.typedAttached
  kept := twins.kept_of_same fun handler hidden => by
    have hne : handler ≠ address := Difference.ne_of_shown hidden shown
    exact ⟨⟨rfl, rfl, Table.get?_insert_of_ne _ _ hne⟩,
      ⟨rfl, rfl, Table.get?_insert_of_ne _ _ hne⟩⟩

theorem insertContext (twins : Twins difference app other)
    (shown : difference.hidden ≠ some address) (context : HandlerContext) :
    Twins difference
      { app with
        host := { app.host with contexts := app.host.contexts.insert address context } }
      { other with
        host := { other.host with contexts := other.host.contexts.insert address context } } where
  machine := twins.machine
  targets := twins.targets
  contexts := twins.contexts.insert address context
  handlers := twins.handlers
  registry := twins.registry
  events := twins.events
  typedAttached := twins.typedAttached
  kept := twins.kept_of_same fun handler hidden => by
    have hne : handler ≠ address := Difference.ne_of_shown hidden shown
    exact ⟨⟨Table.get?_insert_of_ne _ _ hne, rfl, rfl⟩,
      ⟨Table.get?_insert_of_ne _ _ hne, rfl, rfl⟩⟩

/-- A handler is forgotten. -/
theorem eraseHandler (twins : Twins difference app other)
    (shown : difference.hidden ≠ some address) :
    Twins difference
      { app with
        host :=
          { app.host with
            contexts := app.host.contexts.erase address
            handlers := app.host.handlers.erase address } }
      { other with
        host :=
          { other.host with
            contexts := other.host.contexts.erase address
            handlers := other.host.handlers.erase address } } where
  machine := twins.machine
  targets := twins.targets
  contexts := twins.contexts.erase address
  handlers := twins.handlers.erase address
  registry := twins.registry
  events := twins.events
  typedAttached := twins.typedAttached
  kept := twins.kept_of_same fun handler hidden => by
    have hne : handler ≠ address := Difference.ne_of_shown hidden shown
    exact ⟨⟨Table.get?_erase_of_ne _ hne, rfl, Table.get?_erase_of_ne _ hne⟩,
      ⟨Table.get?_erase_of_ne _ hne, rfl, Table.get?_erase_of_ne _ hne⟩⟩

/-- The targets may change, as long as what is said of the handler that differs stays true. -/
theorem setTargets (twins : Twins difference app other) {targets targets' : Table Address (Target p)}
    (agrees : Table.AgreesOff difference.hidden targets targets')
    (same : ∀ handler, difference = .holder handler → targets'.get? handler = targets.get? handler)
    (absent : ∀ handler raw, difference = .presence handler raw → targets'.get? handler = none) :
    Twins difference (app.setMachine { app.machine with targets })
      (other.setMachine { other.machine with targets := targets' }) where
  machine := by
    have h := twins.machine
    simp only [Application.machine, setMachine] at h ⊢
    rw [h]
  targets := agrees
  contexts := twins.contexts
  handlers := twins.handlers
  registry := twins.registry
  events := twins.events
  typedAttached := twins.typedAttached
  kept := by
    have kept := twins.kept
    cases difference with
    | none => trivial
    | holder handler => exact ⟨kept.attached, kept.context, same handler rfl, kept.native⟩
    | presence handler raw =>
      exact ⟨kept.attached, kept.idle, kept.context, absent handler raw rfl, kept.native⟩

/-- A target that both applications have, or neither, may change in both. -/
theorem insertTarget (twins : Twins difference app other) (reaches : difference.Reaches address)
    (target : Target p) :
    Twins difference
      (app.setMachine { app.machine with targets := app.machine.targets.insert address target })
      (other.setMachine
        { other.machine with targets := other.machine.targets.insert address target }) := by
  apply twins.setTargets (twins.targets.insert address target)
  · rintro handler rfl
    rw [Table.get?_insert, Table.get?_insert, twins.kept.target]
  · rintro handler raw rfl
    rw [Table.get?_insert_of_ne _ _ (reaches handler raw rfl).symm]
    exact twins.kept.target

theorem eraseTarget (twins : Twins difference app other) (address : Address) :
    Twins difference
      (app.setMachine { app.machine with targets := app.machine.targets.erase address })
      (other.setMachine
        { other.machine with targets := other.machine.targets.erase address }) := by
  apply twins.setTargets (twins.targets.erase address)
  · rintro handler rfl
    rw [Table.get?_erase, Table.get?_erase, twins.kept.target]
  · rintro handler raw rfl
    rw [Table.get?_erase, twins.kept.target, ite_self]

end Twins

/-- The application with other tables. -/
def refit (app : Application p) (targets : Table Address (Target p))
    (contexts : Table Address HandlerContext)
    (handlers : Table Address (Attached NativeHandler)) (registry : Registry) :
    Application p where
  host := { world := { app.machine with targets }, contexts, handlers, registry }
  events := app.events
  typedAttached := app.typedAttached

/-- But for those tables, the second application is the first one. -/
theorem Twins.exists_refit (twins : Twins difference app other) :
    ∃ targets contexts handlers registry,
      other = app.refit targets contexts handlers registry := by
  obtain ⟨⟨world, contexts, handlers, registry⟩, events, typedAttached⟩ := other
  have hmachine : world = { app.machine with targets := world.targets } := twins.machine
  have hevents : events = app.events := twins.events
  have htyped : typedAttached = app.typedAttached := twins.typedAttached
  refine ⟨world.targets, contexts, handlers, registry, ?_⟩
  rw [hevents, htyped]
  exact congrArg (fun world => (⟨⟨world, contexts, handlers, registry⟩, app.events,
    app.typedAttached⟩ : Application p)) hmachine

theorem twins_setFiles (twins : Twins difference app other) (files : FileSystem) :
    Twins difference (app.setFiles files) (other.setFiles files) := by
  have hcells := twins.setCells { app.machine with files }
  obtain ⟨targets, contexts, handlers, registry, rfl⟩ := twins.exists_refit
  exact hcells

theorem twins_setAbortSignal (twins : Twins difference app other) (abortSignal : AbortSignal) :
    Twins difference (app.setAbortSignal abortSignal) (other.setAbortSignal abortSignal) := by
  have hcells := twins.setCells { app.machine with abortSignal }
  obtain ⟨targets, contexts, handlers, registry, rfl⟩ := twins.exists_refit
  exact hcells

end Application

end CrashDump
