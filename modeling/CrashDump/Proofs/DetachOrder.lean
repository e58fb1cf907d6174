import CrashDump.Proofs.Application.Addresses
import CrashDump.Proofs.Delivery
import CrashDump.Proofs.Lifetime.CrashEvents

/-!
# The order of detaches

Detaches are not independent of each other.  On mac, several handlers may have hooked `SIGABRT` in
the course of a run, and each of them takes the target from the hook and puts back the saved action
when it is detached, even if the hook is not its own any more.  But the first of these detaches
leaves nothing for the others to do, and all else that a detach removes belongs to its handler.  So
what remains depends on which handlers are detached, not on the order.

* `Attachment.detach` and `Roster.detach`: how a client detaches a handler.
* `Machine.uninstallAll` and `dismissAll`: what remains of a machine and of an application without
  some handlers.
* `dismissAll_perm`: that does not depend on their order.
* `run_detach`: detaching handlers one after the other, by induction on the list of them.
* `detach_order`: for every state that a run can reach.
-/

namespace CrashDump

/-! ## Tables -/

namespace Table

variable {K V : Type} [DecidableEq K]

theorem erase_of_get? {table : Table K V} {key : K} (absent : table.get? key = none) :
    table.erase key = table := by
  obtain ⟨entries⟩ := table
  have hnone : ∀ entry ∈ entries, entry.1 ≠ key := by simpa [get?] using absent
  exact congrArg Table.mk (List.filter_eq_self.mpr fun entry h => decide_eq_true (hnone entry h))

/-- The table without some keys. -/
def eraseAll (table : Table K V) (keys : List K) : Table K V :=
  table.filterKeys (· ∉ keys)

theorem eraseAll_nil (table : Table K V) : table.eraseAll [] = table := by
  simp [eraseAll, filterKeys]

/-- One key is removed, and then others. -/
theorem eraseAll_erase (table : Table K V) (key : K) (keys : List K) :
    (table.erase key).eraseAll keys = table.eraseAll (key :: keys) := by
  simp [eraseAll, erase, filterKeys, List.filter_filter, Bool.and_comm]

theorem eraseAll_perm (table : Table K V) {keys others : List K} (perm : keys.Perm others) :
    table.eraseAll keys = table.eraseAll others := by
  simp only [eraseAll, perm.mem_iff]

end Table

variable {p : Platform}

/-! ## Detaching a handler -/

/-- How a client detaches the handler at an address. -/
def Attachment.detach (attachment : Attachment p) (handler : Address) : Application.Event p :=
  if attachment.raw then .detachRaw handler else .drop handler

/-- The crash event that ends with a handler. -/
def Roster.event? (roster : Roster p) (handler : Address) : Option UInt64 :=
  (roster.get? handler).bind (·.event?)

/-- How the clients detach one of the handlers that they know of. -/
def Roster.detach (roster : Roster p) (handler : Address) : Application.Event p :=
  ((roster.get? handler).map (·.detach handler)).getD (.drop handler)

/-- What is answered to the detach of a handler, and what is seen of it. -/
def Roster.farewell (roster : Roster p) (handler : Address) : Application.Reply × Trace p :=
  (.done, [.uninstalled handler, .contextFreed handler, .logged .detached] ++
    ((roster.event? handler).map .eventDropped).toList)

/-- Some of the handlers pass a test. -/
def Roster.anyOf (roster : Roster p) (test : Attachment p → Bool) (handlers : List Address) : Bool :=
  handlers.any fun handler => (roster.get? handler).any test

theorem Roster.anyOf_perm (roster : Roster p) (test : Attachment p → Bool)
    {handlers others : List Address} (perm : handlers.Perm others) :
    roster.anyOf test handlers = roster.anyOf test others := by
  unfold anyOf
  rw [Bool.eq_iff_iff, List.any_eq_true, List.any_eq_true]
  simp only [perm.mem_iff]

/-- The handlers that are left are what they were. -/
theorem Roster.get?_erase_of_mem {roster : Roster p} {handler other : Address}
    {handlers : List Address} (absent : handler ∉ handlers) (h : other ∈ handlers) :
    (roster.erase handler).get? other = roster.get? other :=
  Table.get?_erase_of_ne roster fun heq => absent (heq ▸ h)

theorem Roster.anyOf_erase (roster : Roster p) (test : Attachment p → Bool) {handler : Address}
    {handlers : List Address} (absent : handler ∉ handlers) :
    Roster.anyOf (roster.erase handler) test handlers = roster.anyOf test handlers := by
  unfold anyOf
  rw [Bool.eq_iff_iff, List.any_eq_true, List.any_eq_true]
  refine exists_congr fun other => and_congr_right fun hother => ?_
  rw [Roster.get?_erase_of_mem absent hother]

/-! ## What remains -/

/-- To restore the action once more changes nothing. -/
theorem AbortSignal.restore_restore (signal : AbortSignal) :
    signal.restore.restore = signal.restore := by
  obtain ⟨action, target, _ | saved⟩ := signal <;> rfl

/-- A machine without some handlers, given which fault sources they hooked. -/
def Machine.uninstallAll (machine : Machine p) (hooked : FaultSource → Bool)
    (handlers : List Address) : Machine p :=
  { machine with
    targets := machine.targets.eraseAll handlers
    crashHandler := if hooked .crashHandler then none else machine.crashHandler
    abortSignal :=
      if hooked .abortSignal then machine.abortSignal.restore else machine.abortSignal }

/-- One handler is unhooked, and then others. -/
theorem Machine.uninstallAll_uninstall (machine : Machine p) (source : Option FaultSource)
    (handler : Address) (hooked : FaultSource → Bool) (handlers : List Address) :
    (machine.uninstall ⟨source, handler⟩).uninstallAll hooked handlers =
      machine.uninstallAll (fun kind => source = some kind || hooked kind)
        (handler :: handlers) := by
  rcases source with _ | _ | _
  · simp [uninstallAll, uninstall, unhook, Table.eraseAll_erase]
  · simp [uninstallAll, uninstall, unhook, Table.eraseAll_erase]
  · -- the others that hooked the signal may restore it again: the first one has put it back for good
    simp [uninstallAll, uninstall, unhook, Table.eraseAll_erase, AbortSignal.restore_restore]

namespace Application

/-- The application without some handlers of a roster, given what is left of the registry. -/
def dismissAll (app : Application p) (roster : Roster p) (registry : Registry)
    (handlers : List Address) : Application p where
  host :=
    { world := app.machine.uninstallAll
        (fun kind => roster.anyOf (fun attachment => attachment.source = some kind) handlers)
        handlers
      contexts := app.host.contexts.eraseAll handlers
      handlers := app.host.handlers.eraseAll handlers
      registry }
  events := app.events.eraseAll handlers
  typedAttached := app.typedAttached && !roster.anyOf (·.event?.isSome) handlers

variable {app : Application p} {roster : Roster p} {handler : Address} {handlers : List Address}

theorem dismissAll_nil (app : Application p) (roster : Roster p) :
    app.dismissAll roster app.host.registry [] = app := by
  simp [dismissAll, Machine.uninstallAll, Roster.anyOf, Table.eraseAll_nil, Application.machine]

/-- What remains does not depend on the order of the handlers. -/
theorem dismissAll_perm (app : Application p) (roster : Roster p) (registry : Registry)
    {handlers others : List Address} (perm : handlers.Perm others) :
    app.dismissAll roster registry handlers = app.dismissAll roster registry others := by
  simp only [dismissAll, Machine.uninstallAll, Roster.anyOf_perm roster _ perm,
    Table.eraseAll_perm _ perm]

/-- One handler is detached, and then others. -/
theorem dismissAll_dismiss (coherent : Coherent app roster) {attachment : Attachment p}
    (live : roster.get? handler = some attachment) (absent : handler ∉ handlers)
    (between registry : Registry) :
    (app.dismiss between handler attachment).dismissAll (roster.erase handler) registry handlers =
      app.dismissAll roster registry (handler :: handlers) := by
  have hany (test : Attachment p → Bool) :
      roster.anyOf test (handler :: handlers) = (test attachment || roster.anyOf test handlers) := by
    simp only [Roster.anyOf, List.any_cons, live, Option.any_some]
  -- without a crash event there is nothing to remove, and removing it changes nothing
  have hevents : (if attachment.event? = none then app.events else app.events.erase handler) =
      app.events.erase handler := by
    split
    · rename_i hnone
      refine (Table.erase_of_get? ?_).symm
      rw [coherent.events, live, Option.bind_some, hnone]
    · rfl
  have htyped : (if attachment.event? = none then app.typedAttached else false) =
      (app.typedAttached && !attachment.event?.isSome) := by
    cases attachment.event? <;> simp
  simp only [dismissAll, dismiss, hevents, htyped, Roster.anyOf_erase roster _ absent, hany,
    Table.eraseAll_erase, Bool.not_or, Bool.and_assoc]
  congr 2
  exact Machine.uninstallAll_uninstall ..

/-! ## One detach after the other -/

/-- A client detaches a handler. -/
theorem step_detach (coherent : Coherent app roster) (nonnull : roster.get? 0 = none)
    {attachment : Attachment p} (live : roster.get? handler = some attachment) :
    ∃ registry : Registry,
      registry.Lists (fun other => other ≠ handler ∧ roster.IsOut other) ∧
      app.step (roster.detach handler) =
        ((roster.farewell handler).1, app.dismiss registry handler attachment,
          (roster.farewell handler).2) := by
  have hdetach : roster.detach handler = attachment.detach handler := by
    rw [Roster.detach, live, Option.map_some, Option.getD_some]
  have hevent : roster.event? handler = attachment.event? := by
    rw [Roster.event?, live, Option.bind_some]
  rw [hdetach, Attachment.detach, Roster.farewell, hevent]
  cases hraw : attachment.raw with
  | true =>
    have hne : handler ≠ 0 := by
      rintro rfl
      rw [nonnull] at live
      cases live
    obtain ⟨registry, -, hlists, hstep⟩ := step_detachRaw_of_isOut coherent hne live hraw
    exact ⟨registry, hlists, by rw [if_pos rfl, hstep, event?_of_raw hraw]; rfl⟩
  | false =>
    refine ⟨app.host.registry, coherent.lists_of_owned live hraw, ?_⟩
    rw [if_neg Bool.false_ne_true, step_drop_of_live coherent live hraw]

/-- Clients detach handlers one after the other.  Each is answered and seen as it would be if it
were the only one. -/
theorem run_detach {app : Application p} {roster : Roster p} (coherent : Coherent app roster)
    (nonnull : roster.get? 0 = none) (nodup : handlers.Nodup)
    (live : ∀ handler ∈ handlers, roster.get? handler ≠ none) :
    ∃ registry : Registry,
      registry.Lists (fun other => other ∉ handlers ∧ roster.IsOut other) ∧
      app.run (handlers.map roster.detach) =
        (app.dismissAll roster registry handlers, handlers.map roster.farewell) := by
  induction handlers generalizing app roster with
  | nil =>
    refine ⟨app.host.registry, coherent.lists.congr fun other => ?_, ?_⟩
    · exact and_iff_right List.not_mem_nil
    · rw [dismissAll_nil]
      rfl
  | cons handler rest ih =>
    obtain ⟨absent, nodup⟩ := List.nodup_cons.mp nodup
    obtain ⟨attachment, hlive⟩ :=
      Option.ne_none_iff_exists'.mp (live handler List.mem_cons_self)
    obtain ⟨between, hbetween, hstep⟩ := step_detach coherent nonnull hlive
    have coherent' : Coherent (app.dismiss between handler attachment) (roster.erase handler) :=
      coherent.dismiss hlive hbetween.nodup (coherent.mem_iff_of_lists hbetween)
    -- clients know the same of the rest, so the rest is detached by the same events
    have hsame {other : Address} (h : other ∈ rest) :
        Table.get? (roster.erase handler) other = roster.get? other :=
      Roster.get?_erase_of_mem absent h
    obtain ⟨registry, hregistry, hrun⟩ := ih coherent'
      (by rw [Table.get?_erase, nonnull, ite_self]) nodup fun other h => by
        rw [hsame h]
        exact live other (List.mem_cons_of_mem handler h)
    have hevents : rest.map (Roster.detach (roster.erase handler)) = rest.map roster.detach :=
      List.map_congr_left fun other h => by rw [Roster.detach, Roster.detach, hsame h]
    have hresults : rest.map (Roster.farewell (roster.erase handler)) = rest.map roster.farewell :=
      List.map_congr_left fun other h => by
        rw [Roster.farewell, Roster.farewell, Roster.event?, Roster.event?, hsame h]
    rw [hevents, hresults] at hrun
    refine ⟨registry, hregistry.congr fun other => ?_, ?_⟩
    · by_cases h : other = handler <;> simp [h, Roster.IsOut]
    · rw [List.map_cons, List.map_cons, run_cons, replyTo_of_step hstep, after_of_step hstep,
        seen_of_step hstep, hrun, dismissAll_dismiss coherent hlive absent]

/-- A detach calls no client. -/
theorem calls_farewell (roster : Roster p) (handler : Address) :
    (roster.farewell handler).2.calls = [] := by
  rw [Roster.farewell]
  cases roster.event? handler <;> rfl

/-- In every state that a run can reach, some of the attached handlers may be detached in any order.
The crash handler of the process, all cells of `SIGABRT`, the targets, the files, the contexts, the
handlers and the crash events in memory are the same in the end, and the same raw handles are out.
The same crash events are dropped, and nobody is called. -/
theorem detach_order (files : FileSystem) (ids : IdSource) (events : List (Event p))
    {handlers others : List Address} (nodup : handlers.Nodup)
    (live : ∀ handler ∈ handlers, (Roster.afterRun files ids events).get? handler ≠ none)
    (perm : handlers.Perm others) :
    let app := afterRun files ids events
    let roster := Roster.afterRun files ids events
    let first := app.run (handlers.map roster.detach)
    let second := app.run (others.map roster.detach)
    second.1.machine = first.1.machine ∧
    second.1.host.contexts = first.1.host.contexts ∧
    second.1.host.handlers = first.1.host.handlers ∧
    second.1.events = first.1.events ∧
    second.1.typedAttached = first.1.typedAttached ∧
    second.1.host.registry.handles.Perm first.1.host.registry.handles ∧
    (second.2.flatMap fun result => Custody.ended result.2).Perm
      (first.2.flatMap fun result => Custody.ended result.2) ∧
    ∀ result ∈ first.2 ++ second.2, result.1 = .done ∧ result.2.calls = [] := by
  intro app roster first second
  have coherent : Coherent app roster := coherent_afterRun files ids events
  have nonnull : roster.get? 0 = none := get?_zero_afterAll (coherent_initial p files ids) rfl events
  obtain ⟨registry, hlists, hfirst⟩ := run_detach coherent nonnull nodup live
  obtain ⟨registry', hlists', hsecond⟩ := run_detach coherent nonnull (perm.nodup_iff.mp nodup)
    fun handler h => live handler (perm.mem_iff.mpr h)
  have hsame : app.dismissAll roster registry' others = app.dismissAll roster registry' handlers :=
    dismissAll_perm app roster registry' perm.symm
  have hregistry : registry'.handles.Perm registry.handles :=
    (hlists'.congr fun other => by rw [perm.mem_iff]).perm hlists
  simp only [first, second, hfirst, hsecond, hsame]
  refine ⟨rfl, rfl, rfl, rfl, rfl, hregistry, (perm.symm.map _).flatMap_right _, ?_⟩
  intro result hresult
  rw [← List.map_append] at hresult
  obtain ⟨handler, -, rfl⟩ := List.mem_map.mp hresult
  exact ⟨rfl, calls_farewell roster handler⟩

/-- Two handlers hooked `SIGABRT` one after the other, with a dump and a change of the action in
between, and a third one is typed.  In either order the action is the one that the second found. -/
theorem detach_order_overlapping :
    let files := FileSystem.ofWorkingDirectory []
    let ids := IdSource.fromSeed 0
    let events : List (Event .mac) :=
      [.attachRaw none 0 7 1 2 ⟨none, 0x10⟩, .abort 1 2 .written, .setAbortAction .client,
        .attachOwned [] 8 2 ⟨false, true⟩ ⟨none, 0x20⟩,
        .attachTyped [] .noHandlers 9 ⟨none, 0x30⟩]
    let app := afterRun files ids events
    let roster := Roster.afterRun files ids events
    let first := app.run ([0x10, 0x20, 0x30].map roster.detach)
    let second := app.run ([0x30, 0x20, 0x10].map roster.detach)
    app.machine.abortSignal = ⟨.hook, some 0x20, some .client⟩ ∧
      first.1.machine.abortSignal = ⟨.client, none, none⟩ ∧
      second.1.machine = first.1.machine := by
  intro files ids events app roster first second
  have attached : ∀ handler ∈ [0x10, 0x20, 0x30], (roster.get? handler).isSome := by
    decide +kernel
  have live : ∀ handler ∈ [0x10, 0x20, 0x30], roster.get? handler ≠ none :=
    fun handler h => Option.isSome_iff_ne_none.mp (attached handler h)
  have perm : [0x10, 0x20, 0x30].Perm [0x30, 0x20, 0x10] := by decide
  refine ⟨?_, ?_, (detach_order files ids events (by decide) live perm).1⟩
  · decide +kernel
  · decide +kernel

end Application

end CrashDump
