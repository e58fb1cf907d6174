import CrashDump.Proofs.ReportedPath

/-!
# What a trace shows of dumps

The paths that were reported, the paths that crash events were given, and the files that were
opened, each in the order in which it happened.
-/

namespace CrashDump

variable {p : Platform}

namespace Trace

/-- The paths that were reported. -/
def paths (trace : Trace p) : List (List p.PathUnit) :=
  trace.filterMap fun
    | .notified _ _ path => some path
    | _ => none

/-- The paths that crash events were given. -/
def invocations (trace : Trace p) : List Path :=
  trace.filterMap fun
    | .invoked _ path => some path
    | _ => none

/-- The files that were opened. -/
def files (trace : Trace p) : List Location :=
  trace.filterMap fun
    | .opened file => some file
    | _ => none

variable {trace first second : Trace p}

theorem paths_append : (first ++ second).paths = first.paths ++ second.paths :=
  List.filterMap_append

theorem invocations_append :
    (first ++ second).invocations = first.invocations ++ second.invocations :=
  List.filterMap_append

theorem files_append : (first ++ second).files = first.files ++ second.files :=
  List.filterMap_append

theorem files_eq_nil (h : ∀ location, .opened location ∉ trace) : trace.files = [] := by
  refine List.filterMap_eq_nil_iff.mpr fun observation hmem => ?_
  cases observation with
  | opened location => exact absurd hmem (h location)
  | _ => rfl

/-- Paths are reported by calls. -/
theorem paths_calls (trace : Trace p) : trace.calls.paths = trace.paths := by
  unfold paths calls
  rw [List.filterMap_filter]
  congr 1
  funext observation
  cases observation <;> rfl

theorem invocations_calls (trace : Trace p) : trace.calls.invocations = trace.invocations := by
  unfold invocations calls
  rw [List.filterMap_filter]
  congr 1
  funext observation
  cases observation <;> rfl

end Trace

namespace Attachment

theorem paths_calls (attachment : Attachment p) (handler : Address) :
    (attachment.calls handler).paths = [attachment.path] := by
  unfold calls
  cases attachment.event? <;> rfl

theorem invocations_calls (attachment : Attachment p) (handler : Address) :
    (attachment.calls handler).invocations =
      (attachment.event?.map fun _ => p.codec.decode attachment.path).toList := by
  unfold calls
  cases attachment.event? <;> rfl

theorem files_calls (attachment : Attachment p) (handler : Address) :
    (attachment.calls handler).files = [] :=
  Trace.files_eq_nil (not_opened_calls attachment handler)

end Attachment

end CrashDump
