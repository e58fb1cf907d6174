import CrashDump.Bridge
import CrashDump.Proofs.PathBuffer.Composition

/-!
# What a bridge reports

A dump is reported by its whole path or not at all.  A directory and an id are reported as the path
is that they make up, unless it does not fit in a buffer.  It makes no difference if the buffer is
kept from one report to the next: no report shows anything of what it held.

* `deliverJoined_of_le` and `deliverJoined_of_lt`: a directory and an id.
* `Delivery.whole?` and `Delivery.report`: what there is to report.
* `deliver_eq_report`: it is reported.
* `deliverIn`: reporting by way of a buffer that was in use, with every sum and every index checked.
* `deliverIn_all`: any number of reports by way of one buffer.
-/

namespace CrashDump

variable {p : Platform}

namespace Bridge

variable {U C : Type}

/-! ## What there is to report -/

namespace Delivery

/-- The dump was written. -/
def succeeded : Delivery U → Bool
  | joined _ _ succeeded => succeeded
  | complete _ succeeded => succeeded

variable [CodeUnit U]

/-- The path of the dump.  If it is still to be put together, it has to fit in a buffer with its
terminator. -/
def whole? (capacity : Nat) : Delivery U → Option (List U)
  | joined directory id _ =>
    if directory.length + id.length + 6 ≤ capacity then some (dumpPath directory id) else none
  | complete path _ => some path

/-- The report of a dump: its path, and none but a whole one. -/
def report (capacity : Nat) (context : C) (delivery : Delivery U) : Report C U :=
  match delivery.whole? capacity with
  | some path => ⟨delivery.succeeded, some ⟨context, path⟩, none⟩
  | none => ⟨delivery.succeeded, none, some .deliverySkipped⟩

theorem report_joined_of_le {capacity : Nat} {context : C} {directory id : List U}
    {succeeded : Bool} (h : directory.length + id.length + 6 ≤ capacity) :
    (joined directory id succeeded).report capacity context =
      ⟨succeeded, some ⟨context, dumpPath directory id⟩, none⟩ := by
  simp only [report, whole?, if_pos h, Delivery.succeeded]

theorem report_joined_of_lt {capacity : Nat} {context : C} {directory id : List U}
    {succeeded : Bool} (h : capacity < directory.length + id.length + 6) :
    (joined directory id succeeded).report capacity context =
      ⟨succeeded, none, some .deliverySkipped⟩ := by
  simp only [report, whole?, if_neg (Nat.not_le.mpr h), Delivery.succeeded]

end Delivery

/-! ## What is reported -/

/-- A path that fits is reported whole. -/
theorem deliverJoined_of_le {context : C} {directory id : List p.PathUnit} {succeeded : Bool}
    (h : directory.length + id.length + 6 ≤ p.maxPathUnits) :
    deliverJoined (p := p) context directory id succeeded =
      deliverComplete (p := p) context (dumpPath directory id) succeeded := by
  obtain ⟨after, hrun, hcontents⟩ :=
    PathBuffer.run_compose_of_le (PathBuffer.new : PathBuffer p.PathUnit p.maxPathUnits) h
  simp only [deliverJoined, hrun, hcontents, deliverComplete]

/-- Of a path that does not fit nobody is told. -/
theorem deliverJoined_of_lt {context : C} {directory id : List p.PathUnit} {succeeded : Bool}
    (h : p.maxPathUnits < directory.length + id.length + 6) :
    deliverJoined (p := p) context directory id succeeded =
      ⟨succeeded, none, some .deliverySkipped⟩ := by
  obtain ⟨after, hrun⟩ :=
    PathBuffer.run_compose_of_lt (PathBuffer.new : PathBuffer p.PathUnit p.maxPathUnits) h
  simp only [deliverJoined, hrun]

/-- What there is to report is reported. -/
theorem deliver_eq_report (context : C) (delivery : Delivery p.PathUnit) :
    deliver context delivery = delivery.report p.maxPathUnits context := by
  cases delivery with
  | complete path succeeded => rfl
  | joined directory id succeeded =>
    show deliverJoined context directory id succeeded = _
    rcases Nat.lt_or_ge p.maxPathUnits (directory.length + id.length + 6) with hlt | hle
    · rw [deliverJoined_of_lt hlt, Delivery.report_joined_of_lt hlt]
    · rw [deliverJoined_of_le hle, Delivery.report_joined_of_le hle]
      rfl

/-! ## Any number of reports by way of one buffer -/

section

open PathBuffer.Checked (Stop)

/-- Puts a path together in a buffer that was in use, with every sum and every index checked. -/
def composed {capacity : Nat} [CodeUnit U] (directory id : List U) :
    PathBuffer.Checked.Edit U capacity (List U) := do
  PathBuffer.Checked.compose directory id
  PathBuffer.Checked.contents

/-- Reports what comes of putting a path together.  A panic stays one. -/
def reportOf {capacity : Nat} (context : C) (succeeded : Bool) :
    EStateM.Result Stop (PathBuffer U capacity) (List U) →
      EStateM.Result Panic (PathBuffer U capacity) (Report C U)
  | .ok path after => .ok ⟨succeeded, some ⟨context, path⟩, none⟩ after
  | .error (.capacity _) after => .ok ⟨succeeded, none, some .deliverySkipped⟩ after
  | .error (.panic cause) after => .error cause after

/-- Reports a dump by way of such a buffer. -/
def deliverIn (context : C) : Delivery p.PathUnit →
    EStateM Panic (PathBuffer p.PathUnit p.maxPathUnits) (Report C p.PathUnit)
  | .joined directory id succeeded => fun buffer =>
    reportOf context succeeded ((composed directory id).run buffer)
  | .complete path succeeded => pure (deliverComplete (p := p) context path succeeded)

/-- The directory and the id lie in memory. -/
def Delivery.InMemory : Delivery U → Prop
  | .joined directory id _ => directory.length ≤ Word.maxLength ∧ id.length ≤ Word.maxLength
  | .complete _ _ => True

theorem maxPathUnits_le_maxLength (p : Platform) : p.maxPathUnits ≤ Word.maxLength := by
  cases p <;> decide

/-- Either the whole path is put together, or there is no room for it. -/
theorem run_composed {capacity : Nat} [CodeUnit U] (addressable : capacity ≤ Word.maxLength)
    {directory id : List U} (shortDirectory : directory.length ≤ Word.maxLength)
    (shortId : id.length ≤ Word.maxLength) (buffer : PathBuffer U capacity) :
    (directory.length + id.length + 6 ≤ capacity ∧
      ∃ after, (composed directory id).run buffer = .ok (dumpPath directory id) after) ∨
    (capacity < directory.length + id.length + 6 ∧
      ∃ after, (composed directory id).run buffer = .error (.capacity .exceeded) after) := by
  have hchecked :=
    PathBuffer.run_compose_checked addressable shortDirectory shortId buffer
  rw [EStateM.run_adaptExcept] at hchecked
  unfold composed
  rw [EStateM.run_bind, hchecked]
  rcases PathBuffer.compose_cases directory id buffer with
    ⟨hfits, after, hok, shows⟩ | ⟨hover, after, _, hstopped, -, -⟩
  · have hshown := PathBuffer.Checked.run_contents (shows.length ▸ shows.length_le)
    rw [hok]
    exact .inl ⟨by omega, after, shows.contents ▸ hshown⟩
  · rw [hstopped]
    exact .inr ⟨by omega, after, rfl⟩

/-- Whatever the buffer held, the report is the same, and nothing panics. -/
theorem run_deliverIn (context : C) {delivery : Delivery p.PathUnit} (inMemory : delivery.InMemory)
    (buffer : PathBuffer p.PathUnit p.maxPathUnits) :
    ∃ after, (deliverIn context delivery).run buffer =
      .ok (delivery.report p.maxPathUnits context) after := by
  cases delivery with
  | complete path succeeded => exact ⟨buffer, rfl⟩
  | joined directory id succeeded =>
    have hrun : (deliverIn context (.joined directory id succeeded)).run buffer =
        reportOf context succeeded ((composed directory id).run buffer) := rfl
    rcases run_composed (maxPathUnits_le_maxLength p) inMemory.1 inMemory.2 buffer with
      ⟨hle, after, hok⟩ | ⟨hlt, after, hstopped⟩
    · rw [hrun, hok, Delivery.report_joined_of_le hle]
      exact ⟨after, rfl⟩
    · rw [hrun, hstopped, Delivery.report_joined_of_lt hlt]
      exact ⟨after, rfl⟩

/-- The same holds of any number of reports, each in the buffer that the one before left. -/
theorem deliverIn_all (calls : List (C × Delivery p.PathUnit))
    (inMemory : ∀ call ∈ calls, call.2.InMemory)
    (buffer : PathBuffer p.PathUnit p.maxPathUnits) :
    (answerAll (calls.map fun call => deliverIn call.1 call.2) buffer).1 =
      calls.map fun call => .ok (call.2.report p.maxPathUnits call.1) := by
  induction calls generalizing buffer with
  | nil => rfl
  | cons call rest ih =>
    obtain ⟨after, hrun⟩ := run_deliverIn call.1 (inMemory call List.mem_cons_self) buffer
    have hrest := ih (fun other h => inMemory other (List.mem_cons_of_mem call h)) after
    simp only [List.map_cons, answerAll, hrun, hrest]

end

end Bridge

end CrashDump
