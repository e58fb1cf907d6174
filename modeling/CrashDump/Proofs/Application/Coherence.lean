import CrashDump.Proofs.Application.Roster
import CrashDump.Proofs.Registry
import CrashDump.Proofs.Target
import Mathlib.Tactic.ByContra

/-!
# What an application keeps for the handlers of a roster

An application holds what belongs to its attached handlers in many places: the handler, its
context, its target, its crash event, its entry in the registry, and the cells of the process.
`Coherent` says that all of them agree with one roster.

* `enrol`, `dismiss` and `settle` are what an attach, a detach and a fault do to an application.
* `Coherent.enrol`, `Coherent.dismiss` and `Coherent.settle`: each keeps the agreement, with the
  roster changed accordingly.
-/

namespace CrashDump

variable {p : Platform}

/-- A target that writes the next dump of an attached handler. -/
structure Target.Serves (target : Target p) (address : Address) (attachment : Attachment p) :
    Prop where
  directory : target.directory = attachment.directory
  context : target.context = address
  names : target.next.Names attachment.directory attachment.id

namespace Application

/-- Each raw handle has the address of the handler behind it. -/
def OneAddress (app : Application p) : Prop :=
  ∀ handler native handle, app.host.handlers.get? handler = some ⟨native, some handle⟩ →
    handler = handle

/-- The application holds just what the attached handlers of the roster need. -/
structure Coherent (app : Application p) (roster : Roster p) : Prop where
  handlers : ∀ address,
    app.host.handlers.get? address = (roster.get? address).map (·.handler address)
  contexts : ∀ address,
    app.host.contexts.get? address = (roster.get? address).map (·.context address)
  events : ∀ address, app.events.get? address = (roster.get? address).bind (·.event?)
  serves : ∀ {address attachment}, roster.get? address = some attachment →
    ∃ target, app.machine.targets.get? address = some target ∧ target.Serves address attachment
  fits : ∀ {address attachment}, roster.get? address = some attachment →
    requiredUnits attachment.directory.length ≤ p.maxPathUnits
  registry_nodup : app.host.registry.handles.Nodup
  registered : ∀ address, address ∈ app.host.registry.handles ↔
    ∃ attachment, roster.get? address = some attachment ∧ attachment.raw = true
  /-- The crash handler of the process belongs to the one handler that hooked it. -/
  crashHandler : ∀ address, app.machine.crashHandler = some address ↔
    ∃ attachment, roster.get? address = some attachment ∧
      attachment.source = some .crashHandler
  /-- The hook for `SIGABRT` has no target but that of an attached handler. -/
  abortTarget : ∀ {address}, app.machine.abortSignal.target = some address →
    ∃ attachment, roster.get? address = some attachment ∧ attachment.source = some .abortSignal
  saved : app.machine.abortSignal.target ≠ none → app.machine.abortSignal.saved ≠ none
  typedAttached : app.typedAttached = true ↔
    ∃ address attachment, roster.get? address = some attachment ∧ attachment.event? ≠ none
  typed_unique : ∀ {a b x y}, roster.get? a = some x → x.event? ≠ none →
    roster.get? b = some y → y.event? ≠ none → a = b

theorem OneAddress.handlerBehind? {app : Application p} (one : app.OneAddress) {handle : Address}
    {native : NativeHandler} (held : app.host.handlers.get? handle = some ⟨native, some handle⟩) :
    app.host.handlerBehind? handle = some handle :=
  Host.handlerBehind?_of_get? held fun _ _ h => one _ _ _ h

theorem coherent_initial (p : Platform) (files : FileSystem) (ids : IdSource) :
    Coherent (initial p files ids) .empty where
  handlers _ := rfl
  contexts _ := rfl
  events _ := rfl
  serves h := by cases h
  fits h := by cases h
  registry_nodup := List.nodup_nil
  registered address := by
    constructor
    · intro h
      cases h
    · rintro ⟨_, h, _⟩
      cases h
  crashHandler address := by
    constructor
    · intro h
      cases h
    · rintro ⟨_, h, _⟩
      cases h
  abortTarget h := by cases h
  saved h := absurd rfl h
  typedAttached := by
    constructor
    · intro h
      cases h
    · rintro ⟨_, _, h, _⟩
      cases h
  typed_unique h := by cases h

namespace Coherent

variable {app : Application p} {roster : Roster p}

/-- The registry lists the raw handles that clients hold. -/
theorem lists (coherent : Coherent app roster) : app.host.registry.Lists roster.IsOut :=
  ⟨coherent.registry_nodup, coherent.registered⟩

/-- A raw handle that is out leads to the handler of its address. -/
theorem handler_of_isOut (coherent : Coherent app roster) {handle : Address}
    {attachment : Attachment p} (live : roster.get? handle = some attachment)
    (raw : attachment.raw = true) :
    app.host.handlers.get? handle = some ⟨⟨attachment.source, handle⟩, some handle⟩ := by
  rw [coherent.handlers, live, Option.map_some, Attachment.handler, if_pos raw]

theorem oneAddress (coherent : Coherent app roster) : app.OneAddress := by
  intro handler native handle h
  rw [coherent.handlers] at h
  obtain ⟨attachment, -, hattached⟩ := Option.map_eq_some_iff.mp h
  have hraw : (if attachment.raw then some handler else none) = some handle :=
    congrArg Attached.raw hattached
  split at hraw
  · exact Option.some.inj hraw
  · cases hraw

/-- It lists the same ones without a handler that its client owns. -/
theorem lists_of_owned (coherent : Coherent app roster) {handler : Address}
    {attachment : Attachment p} (live : roster.get? handler = some attachment)
    (owned : attachment.raw = false) :
    app.host.registry.Lists fun other => other ≠ handler ∧ roster.IsOut other := by
  refine coherent.lists.congr fun other => and_iff_right_of_imp ?_
  rintro ⟨another, hanother, hout⟩ rfl
  rw [live] at hanother
  cases hanother
  rw [owned] at hout
  cases hout

/-- What is left of the registry is what was in it, but for one handler. -/
theorem mem_iff_of_lists (coherent : Coherent app roster) {registry : Registry} {handler : Address}
    (lists : registry.Lists fun other => other ≠ handler ∧ roster.IsOut other) (other : Address) :
    other ∈ registry.handles ↔ other ∈ app.host.registry.handles ∧ other ≠ handler := by
  rw [lists.mem_iff, coherent.lists.mem_iff, and_comm]

/-- A free address of the host is free in the roster. -/
theorem get?_nextAddress (coherent : Coherent app roster) (preferred : Address) :
    roster.get? (app.host.nextAddress preferred) = none := by
  have hfree := Address.allocate_not_mem preferred app.host.contexts.keys
  rw [Table.mem_keys_iff, Classical.not_not, coherent.contexts, Option.map_eq_none_iff] at hfree
  exact hfree

/-- The cells of the process may change, as long as the hook for `SIGABRT` gets no new target. -/
theorem setMachine (coherent : Coherent app roster) {machine : Machine p}
    (targets : machine.targets = app.machine.targets)
    (crashHandler : machine.crashHandler = app.machine.crashHandler)
    (abortTarget : machine.abortSignal.target = none ∨
      machine.abortSignal.target = app.machine.abortSignal.target ∧
        machine.abortSignal.saved = app.machine.abortSignal.saved) :
    Coherent (app.setMachine machine) roster where
  handlers := coherent.handlers
  contexts := coherent.contexts
  events := coherent.events
  serves h := by
    obtain ⟨target, htarget, hserves⟩ := coherent.serves h
    exact ⟨target, targets ▸ htarget, hserves⟩
  fits := coherent.fits
  registry_nodup := coherent.registry_nodup
  registered := coherent.registered
  crashHandler address := by
    rw [← coherent.crashHandler address, ← crashHandler]
    rfl
  abortTarget {address} h := by
    have h : machine.abortSignal.target = some address := h
    rcases abortTarget with hnone | ⟨hsame, -⟩
    · rw [hnone] at h
      cases h
    · exact coherent.abortTarget (hsame ▸ h)
  saved h := by
    have h : machine.abortSignal.target ≠ none := h
    rcases abortTarget with hnone | ⟨hsame, hsaved⟩
    · exact absurd hnone h
    · have hsaved' : machine.abortSignal.saved ≠ none := by
        rw [hsaved]
        exact coherent.saved (hsame ▸ h)
      exact hsaved'
  typedAttached := coherent.typedAttached
  typed_unique := coherent.typed_unique

end Coherent

/-! ## Attaching -/

/-- The application with one more handler, given the machine in which its source is hooked. -/
def enrol (app : Application p) (machine : Machine p) (address : Address)
    (attachment : Attachment p) : Application p where
  host :=
    { world :=
        { machine with
          targets := machine.targets.insert address
            (Target.new attachment.directory address attachment.id) }
      contexts := app.host.contexts.insert address (attachment.context address)
      handlers := app.host.handlers.insert address (attachment.handler address)
      registry :=
        if attachment.raw then app.host.registry.insert address else app.host.registry }
  events :=
    match attachment.event? with
    | some event => app.events.insert address event
    | none => app.events
  typedAttached := app.typedAttached || attachment.event?.isSome

end Application

/-- What hooking a source does. -/
theorem Machine.hook_cases {machine hooked : Machine p} {refusal : Option Refusal}
    {target : Address} {source : Option FaultSource}
    (h : machine.hook refusal target source = (.ok (), hooked)) :
    (source = none ∧ hooked = machine) ∨
    (source = some .abortSignal ∧ refusal.bind Refusal.abortAction? = none ∧
      machine.abortSignal.target = none ∧
      hooked = { machine with
        abortSignal := ⟨.hook, some target, some machine.abortSignal.action⟩ }) ∨
    (source = some .crashHandler ∧ refusal.bind Refusal.crashHandler? = none ∧
      machine.crashHandler = none ∧ hooked = { machine with crashHandler := some target }) := by
  rcases source with _ | _ | _
  · left
    cases h
    exact ⟨rfl, rfl⟩
  · right; right
    simp only [Machine.hook] at h
    split at h
    · cases h
    · cases h
    · cases h
      exact ⟨rfl, by assumption, by assumption, rfl⟩
  · right; left
    simp only [Machine.hook, Prod.mk.injEq] at h
    obtain ⟨hanswer, hhooked⟩ := h
    cases hset : (machine.abortSignal.hook (refusal.bind Refusal.abortAction?) target).1 with
    | error cause =>
      rw [hset] at hanswer
      cases hanswer
    | ok =>
      obtain ⟨hfree, hagreed⟩ := AbortSignal.free_of_hook hset
      rw [hagreed, AbortSignal.hook_of_free hfree] at hhooked
      exact ⟨rfl, hagreed, hfree, hhooked.symm⟩

/-- A source that could not be hooked leaves everything as it was, whatever was done on the way. -/
theorem Machine.hook_of_error {machine left : Machine p} {refusal : Option Refusal}
    {target : Address} {source : Option FaultSource} {cause : AttachError}
    (h : machine.hook refusal target source = (.error cause, left)) : left = machine := by
  rcases source with _ | _ | _
  · cases h
  · simp only [Machine.hook] at h
    split at h <;> cases h <;> rfl
  · simp only [Machine.hook, Prod.mk.injEq] at h
    obtain ⟨hanswer, rfl⟩ := h
    cases hset : (machine.abortSignal.hook (refusal.bind Refusal.abortAction?) target).1 with
    | error cause => rw [AbortSignal.hook_of_error hset]
    | ok =>
      rw [hset] at hanswer
      cases hanswer

/-- Hooking changes no target and no file. -/
theorem Machine.frame_hook {machine hooked : Machine p} {refusal : Option Refusal}
    {target : Address} {source : Option FaultSource}
    (h : machine.hook refusal target source = (.ok (), hooked)) :
    hooked.targets = machine.targets ∧ hooked.files = machine.files := by
  rcases Machine.hook_cases h with ⟨-, rfl⟩ | ⟨-, -, -, rfl⟩ | ⟨-, -, -, rfl⟩ <;> exact ⟨rfl, rfl⟩

/-- Hooking draws no id. -/
theorem Machine.ids_hook {machine hooked : Machine p} {refusal : Option Refusal}
    {target : Address} {source : Option FaultSource}
    (h : machine.hook refusal target source = (.ok (), hooked)) : hooked.ids = machine.ids := by
  rcases Machine.hook_cases h with ⟨-, rfl⟩ | ⟨-, -, -, rfl⟩ | ⟨-, -, -, rfl⟩ <;> rfl

namespace Application

/-- An attach adds the handler to the roster. -/
theorem Coherent.enrol {app : Application p} {roster : Roster p} (coherent : Coherent app roster)
    {address : Address} {attachment : Attachment p} {refusal : Option Refusal}
    {machine : Machine p} (free : roster.get? address = none)
    (fits : requiredUnits attachment.directory.length ≤ p.maxPathUnits)
    (alone : attachment.event? ≠ none → app.typedAttached = false)
    (hooked : app.machine.hook refusal address attachment.source = (.ok (), machine)) :
    Coherent (app.enrol machine address attachment) (roster.insert address attachment) where
  handlers other := by
    simp only [Application.enrol, Table.get?_insert]
    split
    · subst_vars
      rfl
    · exact coherent.handlers other
  contexts other := by
    simp only [Application.enrol, Table.get?_insert]
    split
    · subst_vars
      rfl
    · exact coherent.contexts other
  events other := by
    rw [Table.get?_insert]
    by_cases h : other = address
    · subst h
      cases he : attachment.event? with
      | none =>
        simp [Application.enrol, he, coherent.events, free]
      | some event => simp [Application.enrol, he]
    · cases he : attachment.event? with
      | none => simp [Application.enrol, he, h, coherent.events]
      | some event =>
        simp [Application.enrol, he, h, Table.get?_insert, coherent.events]
  serves {other another} h := by
    have htargets : machine.targets = app.machine.targets := (Machine.frame_hook hooked).1
    rw [Table.get?_insert] at h
    split at h
    · cases h
      subst_vars
      refine ⟨_, Table.get?_insert_self .., rfl, rfl, ?_⟩
      exact NextDump.names_first p attachment.id fits
    · rename_i hne
      obtain ⟨target, htarget, hserves⟩ := coherent.serves h
      refine ⟨target, ?_, hserves⟩
      rw [← htarget, ← htargets]
      exact Table.get?_insert_of_ne _ _ hne
  fits {other another} h := by
    rw [Table.get?_insert] at h
    split at h
    · cases h
      exact fits
    · exact coherent.fits h
  registry_nodup := by
    simp only [Application.enrol]
    split
    · have fresh : ¬ roster.IsOut address := by
        rintro ⟨_, hsome, -⟩
        rw [free] at hsome
        cases hsome
      exact (coherent.lists.insert fresh).nodup
    · exact coherent.registry_nodup
  registered other := by
    have hold := coherent.registered other
    rw [Table.get?_insert]
    by_cases h : other = address
    · subst h
      rw [free] at hold
      cases hraw : attachment.raw <;> simp [Application.enrol, hraw, hold]
    · cases hraw : attachment.raw <;> simp [Application.enrol, hraw, hold, h]
  crashHandler other := by
    have hold := coherent.crashHandler other
    rw [Table.get?_insert]
    rcases Machine.hook_cases hooked with ⟨hsource, rfl⟩ | ⟨hsource, -, -, rfl⟩ |
      ⟨hsource, -, hnone, rfl⟩
    · by_cases h : other = address
      · subst h
        simpa [Application.enrol, Application.machine, hsource, free] using hold
      · simpa [Application.enrol, Application.machine, h] using hold
    · by_cases h : other = address
      · subst h
        simpa [Application.enrol, Application.machine, hsource, free] using hold
      · simpa [Application.enrol, Application.machine, h] using hold
    · by_cases h : other = address
      · subst h
        simp [Application.enrol, Application.machine, hsource]
      · rw [hnone] at hold
        simpa [Application.enrol, Application.machine, h, Ne.symm h] using hold
  abortTarget {other} h := by
    have keep (hold : app.machine.abortSignal.target = some other) :
        ∃ another, Table.get? (roster.insert address attachment) other = some another ∧
          another.source = some .abortSignal := by
      obtain ⟨another, hget, hsource⟩ := coherent.abortTarget hold
      have hne : other ≠ address := by
        rintro rfl
        rw [free] at hget
        cases hget
      exact ⟨another, by rw [Table.get?_insert_of_ne _ _ hne, hget], hsource⟩
    rcases Machine.hook_cases hooked with ⟨-, rfl⟩ | ⟨hsource, -, -, rfl⟩ | ⟨-, -, -, rfl⟩
    · exact keep h
    · cases h
      exact ⟨attachment, Table.get?_insert_self .., hsource⟩
    · exact keep h
  saved h := by
    rcases Machine.hook_cases hooked with ⟨-, rfl⟩ | ⟨-, -, -, rfl⟩ | ⟨-, -, -, rfl⟩
    · exact coherent.saved h
    · exact Option.some_ne_none _
    · exact coherent.saved h
  typedAttached := by
    have hold := coherent.typedAttached
    simp only [Application.enrol, Bool.or_eq_true, hold]
    constructor
    · rintro (⟨other, another, hget, hevent⟩ | hevent)
      · have hne : other ≠ address := by
          rintro rfl
          rw [free] at hget
          cases hget
        exact ⟨other, another, by rw [Table.get?_insert_of_ne _ _ hne, hget], hevent⟩
      · exact ⟨address, attachment, Table.get?_insert_self .., Option.isSome_iff_ne_none.mp hevent⟩
    · rintro ⟨other, another, hget, hevent⟩
      rw [Table.get?_insert] at hget
      split at hget
      · cases hget
        exact .inr (Option.isSome_iff_ne_none.mpr hevent)
      · exact .inl ⟨other, another, hget, hevent⟩
  typed_unique {a b x y} ha hx hb hy := by
    -- a second crash event would have found the first one attached
    have lone : ∀ {other another}, roster.get? other = some another → another.event? ≠ none →
        attachment.event? = none := by
      intro other another hget hevent
      by_contra hthis
      have htrue := coherent.typedAttached.mpr ⟨other, another, hget, hevent⟩
      rw [alone hthis] at htrue
      cases htrue
    rw [Table.get?_insert] at ha hb
    split at ha <;> split at hb
    · subst_vars
      rfl
    · cases ha
      exact absurd (lone hb hy) hx
    · cases hb
      exact absurd (lone ha hx) hy
    · exact coherent.typed_unique ha hx hb hy

/-! ## Detaching -/

/-- The application with one handler less, given what is left of the registry. -/
def dismiss (app : Application p) (registry : Registry) (address : Address)
    (attachment : Attachment p) : Application p where
  host :=
    { world := app.machine.uninstall ⟨attachment.source, address⟩
      contexts := app.host.contexts.erase address
      handlers := app.host.handlers.erase address
      registry := registry }
  events := if attachment.event? = none then app.events else app.events.erase address
  typedAttached := if attachment.event? = none then app.typedAttached else false

/-- A detach takes the handler off the roster. -/
theorem Coherent.dismiss {app : Application p} {roster : Roster p} (coherent : Coherent app roster)
    {address : Address} {attachment : Attachment p} {registry : Registry}
    (live : roster.get? address = some attachment)
    (nodup : registry.handles.Nodup)
    (registered : ∀ other, other ∈ registry.handles ↔
      other ∈ app.host.registry.handles ∧ other ≠ address) :
    Coherent (app.dismiss registry address attachment) (roster.erase address) where
  handlers other := by
    by_cases h : other = address <;> simp [Application.dismiss, h, coherent.handlers]
  contexts other := by
    by_cases h : other = address <;> simp [Application.dismiss, h, coherent.contexts]
  events other := by
    cases he : attachment.event? with
    | none =>
      by_cases h : other = address
      · subst h
        simp [Application.dismiss, he, coherent.events, live]
      · simp [Application.dismiss, he, h, coherent.events]
    | some event =>
      by_cases h : other = address <;> simp [Application.dismiss, he, h, coherent.events]
  serves {other another} h := by
    rw [Table.get?_erase] at h
    split at h
    · cases h
    · rename_i hne
      obtain ⟨target, htarget, hserves⟩ := coherent.serves h
      refine ⟨target, ?_, hserves⟩
      have hunhook : (app.machine.unhook attachment.source).targets = app.machine.targets := by
        rcases attachment.source with _ | _ | _ <;> rfl
      rw [← htarget, ← hunhook]
      exact Table.get?_erase_of_ne _ hne
  fits {other another} h := by
    rw [Table.get?_erase] at h
    split at h
    · cases h
    · exact coherent.fits h
  registry_nodup := nodup
  registered other := by
    have hold := coherent.registered other
    by_cases h : other = address <;> simp [Application.dismiss, registered, h, hold]
  crashHandler other := by
    have hold := coherent.crashHandler other
    have hself := (coherent.crashHandler address).mpr
    simp only [Application.dismiss, Application.machine, Machine.uninstall, Machine.unhook,
      Table.get?_erase] at hold hself ⊢
    cases hsource : attachment.source with
    | none =>
      by_cases h : other = address
      · subst h
        simpa [hsource, live] using hold
      · simpa [h] using hold
    | some source =>
      cases source with
      | crashHandler =>
        have hheld := hself ⟨attachment, live, hsource⟩
        by_cases h : other = address
        · simp [h]
        · simpa [h, hheld, Ne.symm h] using hold
      | abortSignal =>
        by_cases h : other = address
        · subst h
          simpa [hsource, live] using hold
        · simpa [h] using hold
  abortTarget {other} h := by
    have keep (hold : app.machine.abortSignal.target = some other)
        (hsource : attachment.source ≠ some .abortSignal) :
        ∃ another, Table.get? (roster.erase address) other = some another ∧
          another.source = some .abortSignal := by
      obtain ⟨another, hget, hanother⟩ := coherent.abortTarget hold
      have hne : other ≠ address := by
        rintro rfl
        rw [live] at hget
        cases hget
        exact hsource hanother
      exact ⟨another, by rw [Table.get?_erase_of_ne _ hne, hget], hanother⟩
    cases hsource : attachment.source with
    | none =>
      simp only [Application.dismiss, Application.machine, Machine.uninstall, hsource] at h
      exact keep h (by simp [hsource])
    | some source =>
      simp only [Application.dismiss, Application.machine, Machine.uninstall, hsource] at h
      cases source with
      | crashHandler => exact keep h (by simp [hsource])
      | abortSignal =>
        rw [Machine.unhook, AbortSignal.restore_eq] at h
        cases h
  saved h := by
    cases hsource : attachment.source with
    | none =>
      simp only [Application.dismiss, Application.machine, Machine.uninstall, hsource] at h ⊢
      exact coherent.saved h
    | some source =>
      simp only [Application.dismiss, Application.machine, Machine.uninstall, hsource] at h ⊢
      cases source with
      | crashHandler => exact coherent.saved h
      | abortSignal =>
        rw [Machine.unhook, AbortSignal.restore_eq] at h
        exact absurd rfl h
  typedAttached := by
    have hold := coherent.typedAttached
    cases he : attachment.event? with
    | none =>
      simp only [Application.dismiss, he, if_true, hold]
      constructor
      · rintro ⟨other, another, hget, hevent⟩
        have hne : other ≠ address := by
          rintro rfl
          rw [live] at hget
          cases hget
          exact hevent he
        exact ⟨other, another, by rw [Table.get?_erase_of_ne _ hne, hget], hevent⟩
      · rintro ⟨other, another, hget, hevent⟩
        rw [Table.get?_erase] at hget
        split at hget
        · cases hget
        · exact ⟨other, another, hget, hevent⟩
    | some event =>
      simp only [Application.dismiss, he, reduceCtorEq, if_false, false_iff]
      rintro ⟨other, another, hget, hevent⟩
      rw [Table.get?_erase] at hget
      split at hget
      · cases hget
      · rename_i hne
        exact hne (coherent.typed_unique hget hevent live (by simp [he]))
  typed_unique {a b x y} ha hx hb hy := by
    rw [Table.get?_erase] at ha hb
    split at ha
    · cases ha
    · split at hb
      · cases hb
      · exact coherent.typed_unique ha hx hb hy

/-! ## Faults -/

/-- The application when the target at an address has written a dump and its next one is named. -/
def settle (app : Application p) (files : FileSystem) (address : Address) (target : Target p)
    (abortSignal : AbortSignal) : Application p :=
  app.setMachine
    { app.machine with
      files
      ids := app.machine.ids.advance
      targets := app.machine.targets.insert address target
      abortSignal }

/-- A fault draws a new id for the handler that it reaches. -/
theorem Coherent.settle {app : Application p} {roster : Roster p} (coherent : Coherent app roster)
    {address : Address} {attachment : Attachment p} {target : Target p} {id : Uuid}
    {abortSignal : AbortSignal} (files : FileSystem)
    (live : roster.get? address = some attachment)
    (serves : target.Serves address { attachment with id })
    (abortTarget : abortSignal.target = none ∨
      abortSignal.target = app.machine.abortSignal.target ∧
        abortSignal.saved = app.machine.abortSignal.saved) :
    Coherent (app.settle files address target abortSignal) (roster.rename address id) := by
  have signalled : Coherent
      (app.setMachine { app.machine with files, ids := app.machine.ids.advance, abortSignal })
      roster := coherent.setMachine rfl rfl abortTarget
  constructor
  case handlers =>
    intro other
    rw [Roster.get?_rename]
    split
    · subst_vars
      rw [Option.map_map]
      exact signalled.handlers _
    · exact signalled.handlers other
  case contexts =>
    intro other
    rw [Roster.get?_rename]
    split
    · subst_vars
      rw [Option.map_map]
      exact signalled.contexts _
    · exact signalled.contexts other
  case events =>
    intro other
    rw [Roster.get?_rename]
    split
    · subst_vars
      rw [Option.bind_map]
      exact signalled.events _
    · exact signalled.events other
  case serves =>
    intro other another h
    rw [Roster.get?_rename] at h
    split at h
    · subst_vars
      rw [live] at h
      cases h
      exact ⟨target, Table.get?_insert_self .., serves⟩
    · rename_i hne
      obtain ⟨old, hold, hserves⟩ := coherent.serves h
      exact ⟨old, (Table.get?_insert_of_ne _ _ hne).trans hold, hserves⟩
  case fits =>
    intro other another h
    rw [Roster.get?_rename] at h
    split at h
    · subst_vars
      rw [live] at h
      cases h
      have hfits := coherent.fits live
      exact hfits
    · exact coherent.fits h
  case registry_nodup => exact coherent.registry_nodup
  case registered =>
    intro other
    rw [Roster.exists_get?_rename fun _ => Iff.rfl]
    exact coherent.registered other
  case crashHandler =>
    intro other
    rw [Roster.exists_get?_rename fun _ => Iff.rfl]
    exact signalled.crashHandler other
  case abortTarget =>
    intro other h
    rw [Roster.exists_get?_rename fun _ => Iff.rfl]
    exact signalled.abortTarget h
  case saved => exact signalled.saved
  case typedAttached =>
    refine signalled.typedAttached.trans (exists_congr fun other => ?_)
    exact (Roster.exists_get?_rename fun _ => Iff.rfl).symm
  case typed_unique =>
    intro a b x y ha hx hb hy
    obtain ⟨x', ha', hx'⟩ :=
      (Roster.exists_get?_rename (P := (·.event? ≠ none)) fun _ => Iff.rfl).mp ⟨x, ha, hx⟩
    obtain ⟨y', hb', hy'⟩ :=
      (Roster.exists_get?_rename (P := (·.event? ≠ none)) fun _ => Iff.rfl).mp ⟨y, hb, hy⟩
    exact coherent.typed_unique ha' hx' hb' hy'

end Application

end CrashDump
