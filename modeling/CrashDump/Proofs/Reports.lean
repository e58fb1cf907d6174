import CrashDump.Host.Step
import CrashDump.Installer.Recording
import CrashDump.Proofs.Bridge

/-!
# Dumps are reported by whole paths

A native handler reports a dump by its directory and its id, or by its path.  Who is told of it is
told of the whole path, and the two ways make no difference.  Only a directory and an id whose path
does not fit in a buffer are told to nobody.

* `Host.run_faults`: any number of reports to one handler of a host.
* `reports_whole`: what is told of any number of reports, by the bridge and by a host.
-/

namespace CrashDump

variable {p : Platform}

/-! ## Reports to a handler of a host -/

namespace Bridge.Delivery

/-- What is seen of a report. -/
def seen (handler : Address) (context : HandlerContext) (delivery : Delivery p.PathUnit) :
    Trace p :=
  match delivery.whole? p.maxPathUnits with
  | some path => [.notified handler context path]
  | none => [.printed .deliverySkipped]

end Bridge.Delivery

namespace Host

variable {World Native Request : Type} {installer : Installer p World Native Request}
  {host after : Host World Native} {handler : Address} {context : HandlerContext}

/-- An attached handler has the context that it was attached with. -/
theorem kept_of_attached {request : Request} {preferred : Address} {directory : List p.PathUnit}
    {options : InstallOptions} {trace : Trace p}
    (h : host.step installer (.attach request preferred directory context options) =
      (.attached handler, after, trace)) :
    (∃ attached, after.handlers.get? handler = some attached) ∧
      after.contexts.get? handler = some context := by
  simp only [step] at h
  unfold attach at h
  by_cases hlong : requiredUnits directory.length > p.maxPathUnits
  · rw [if_pos hlong] at h
    cases h
  · rw [if_neg hlong] at h
    cases hinstall : installer.install request directory (host.nextAddress preferred) options
        host.world with
    | mk answer world =>
      rw [hinstall] at h
      cases answer with
      | error cause => cases h
      | ok native =>
        cases h
        exact ⟨⟨_, Table.get?_insert_self ..⟩, Table.get?_insert_self ..⟩

/-- A report to an attached handler. -/
theorem step_fault {attached : Attached Native} (live : host.handlers.get? handler = some attached)
    (kept : host.contexts.get? handler = some context) (delivery : Bridge.Delivery p.PathUnit) :
    host.step installer (.fault handler delivery) =
      (.handled delivery.succeeded, host, delivery.seen handler context) := by
  simp only [step, live, Bridge.deliver_eq_report, Bridge.Delivery.report, Bridge.Delivery.seen]
  cases delivery.whole? p.maxPathUnits with
  | none => rfl
  | some path =>
    have hnotify : host.notify handler path = .notified handler context path := by
      simp only [notify, kept]
    simp only [relay, Option.map_some, Option.map_none, hnotify]
    rfl

/-- Any number of reports to it. -/
theorem run_faults {attached : Attached Native} (live : host.handlers.get? handler = some attached)
    (kept : host.contexts.get? handler = some context)
    (deliveries : List (Bridge.Delivery p.PathUnit)) :
    host.run installer (deliveries.map (.fault handler)) =
      (host, deliveries.map fun delivery =>
        (.handled delivery.succeeded, delivery.seen handler context)) := by
  induction deliveries with
  | nil => rfl
  | cons delivery rest ih =>
    rw [List.map_cons, run, step_fault live kept delivery]
    simp only [ih, List.map_cons]

end Host

/-! ## Reports -/

namespace Bridge

/-- A directory and an id whose path fits are reported as that path is, and others to nobody.  A path
is reported as it is.  Through one buffer, whatever it held, any number of reports are what they are
through a fresh one each, and nothing panics.  Whoever a handler was attached for is told of the
whole paths of its dumps in order, and of nothing else, and each report is answered by whether the
dump was written. -/
theorem reports_whole (p : Platform) (C : Type) :
    (∀ (context : C) (directory id : List p.PathUnit) (succeeded : Bool),
      (directory.length + id.length + 6 ≤ p.maxPathUnits →
        deliverJoined (p := p) context directory id succeeded =
          deliverComplete (p := p) context (directory ++ CodeUnit.ofByte Path.separator ::
            (id ++ extension.map CodeUnit.ofByte)) succeeded) ∧
      (p.maxPathUnits < directory.length + id.length + 6 →
        deliverJoined (p := p) context directory id succeeded =
          ⟨succeeded, none, some .deliverySkipped⟩)) ∧
    (∀ (context : C) (path : List p.PathUnit) (succeeded : Bool),
      deliverComplete (p := p) context path succeeded = ⟨succeeded, some ⟨context, path⟩, none⟩) ∧
    (∀ calls : List (C × Delivery p.PathUnit), (∀ call ∈ calls, call.2.InMemory) →
      ∀ buffer : PathBuffer p.PathUnit p.maxPathUnits,
        (answerAll (calls.map fun call => deliverIn call.1 call.2) buffer).1 =
          calls.map fun call => .ok (deliver call.1 call.2)) ∧
    ∀ (World Native Request : Type) (installer : Installer p World Native Request)
      (host after : Host World Native) (request : Request) (preferred : Address)
      (directory : List p.PathUnit) (context : HandlerContext) (options : InstallOptions)
      (handler : Address) (trace : Trace p),
      host.step installer (.attach request preferred directory context options) =
        (.attached handler, after, trace) →
      ∀ deliveries : List (Delivery p.PathUnit),
        after.run installer (deliveries.map (.fault handler)) =
          (after, deliveries.map fun delivery =>
            (.handled delivery.succeeded, delivery.seen handler context)) := by
  refine ⟨fun context directory id succeeded => ⟨deliverJoined_of_le, deliverJoined_of_lt⟩,
    fun context path succeeded => rfl, ?_, ?_⟩
  · intro calls inMemory buffer
    simp only [deliver_eq_report]
    exact deliverIn_all calls inMemory buffer
  · intro World Native Request installer host after request preferred directory context options
      handler trace attached deliveries
    obtain ⟨⟨kept, live⟩, hcontext⟩ := Host.kept_of_attached attached
    exact Host.run_faults live hcontext deliveries

section

/-- As many units as a buffer has cells. -/
def filling : List UInt8 := List.replicate 4096 0x64

/-- A buffer that was written to up to the last cell. -/
def inUse : PathBuffer UInt8 4096 where
  cells := filling
  length := 4095
  cells_length := List.length_replicate

/-- The dump `1` in `d`, the dump `1` in a directory that fills a buffer, and a dump at a path that
does. -/
def threeDumps : List (Delivery UInt8) :=
  [.joined [0x64] [0x31] true, .joined filling [0x31] true, .complete filling false]

/-- The path of the first. -/
def firstPath : List UInt8 := [0x64, 0x2F, 0x31, 0x2E, 0x64, 0x6D, 0x70]

/-- An attach for the directory `d`. -/
def recordingAttach : Host.Event .mac (Recording.Request .mac) :=
  .attach ⟨none, []⟩ 0x10 [0x64] (.client 3 7) ⟨true, false⟩

/-- The host after it. -/
def recordingHost : Host (List (Recording .mac)) (Recording .mac) :=
  ((Host.initial []).step (Recording.installer .mac) recordingAttach).2.1

/-- Nobody is told of the second, neither in the buffer that was in use nor by the host. -/
theorem reports_whole_three :
    (answerAll (threeDumps.map fun dump => deliverIn (p := .mac) 5 dump) inUse).1 =
      [.ok ⟨true, some ⟨5, firstPath⟩, none⟩, .ok ⟨true, none, some .deliverySkipped⟩,
        .ok ⟨false, some ⟨5, filling⟩, none⟩] ∧
    recordingHost.run (Recording.installer .mac) (threeDumps.map (.fault 0x10)) =
      (recordingHost,
        [(.handled true, [.notified 0x10 (.client 3 7) firstPath]),
          (.handled true, [.printed .deliverySkipped]),
          (.handled false, [.notified 0x10 (.client 3 7) filling])]) := by
  have hlength : filling.length = 4096 := List.length_replicate
  unfold threeDumps
  -- Only the length of the directory matters, and its units are not to be counted one by one.
  generalize filling = directory at hlength ⊢
  have hover : Platform.mac.maxPathUnits < directory.length + [(0x31 : UInt8)].length + 6 := by
    rw [hlength]
    decide
  obtain ⟨hjoined, -, hthrough, htold⟩ := reports_whole .mac Nat
  constructor
  · have inMemory : ∀ call ∈ [(5, .joined [0x64] [0x31] true), (5, .joined directory [0x31] true),
        (5, .complete directory false)], (call : Nat × Delivery UInt8).2.InMemory := by
      have hshort : directory.length ≤ Word.maxLength := hlength ▸ by decide
      intro call h
      simp only [List.mem_cons, List.not_mem_nil, or_false] at h
      rcases h with rfl | rfl | rfl
      · exact ⟨by decide, by decide⟩
      · exact ⟨hshort, by decide⟩
      · exact trivial
    have hfirst : deliver (p := .mac) 5 (.joined [0x64] [0x31] true) =
        ⟨true, some ⟨5, firstPath⟩, none⟩ := (hjoined 5 [0x64] [0x31] true).1 (by decide)
    have hsecond : deliver (p := .mac) 5 (.joined directory [0x31] true) =
        ⟨true, none, some .deliverySkipped⟩ := (hjoined 5 directory [0x31] true).2 hover
    refine (hthrough _ inMemory inUse).trans ?_
    simp only [List.map_cons, List.map_nil, hfirst, hsecond]
    rfl
  · have hsecond : Delivery.seen (p := .mac) 0x10 (.client 3 7) (.joined directory [0x31] true) =
        [.printed .deliverySkipped] := by
      have hwhole : (Delivery.joined directory [0x31] true).whole? Platform.mac.maxPathUnits =
          none := if_neg (Nat.not_le.mpr hover)
      unfold Delivery.seen
      rw [hwhole]
    have hattached : (Host.initial []).step (Recording.installer .mac) recordingAttach =
        (.attached 0x10, recordingHost,
          [.contextAllocated 0x10, .logged (.attached 1)]) := rfl
    rw [htold _ _ _ (Recording.installer .mac) _ recordingHost _ _ _ _ _ _ _ hattached]
    simp only [List.map_cons, List.map_nil, hsecond]
    rfl

end

end Bridge

end CrashDump
