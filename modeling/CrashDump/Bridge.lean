import CrashDump.PathBuffer.Compose
import CrashDump.Platform

/-!
# Reporting a dump

The last thing a native handler does about a crash is to report where the dump is.  It has either
the directory and the id, which `deliverJoined` puts together in a fresh buffer, or the complete
path, which `deliverComplete` passes on.  Both answer whether the dump was written, as they were
told.

A report is addressed to a context, of a type that the caller chooses: the context itself, or a
reference to one.
-/

namespace CrashDump

/-- What is printed for whoever reads the standard error stream. -/
inductive Notice where
  /-- The file of a dump could not be opened. -/
  | openFailed
  /-- The file of a dump could not be made. -/
  | createFailed
  /-- A dump's path does not fit, so that nobody is told of it. -/
  | deliverySkipped
deriving DecidableEq, Repr

/-- The line printed. -/
def Notice.message : Notice → String
  | openFailed => "failed to open minidump file"
  | createFailed => "failed to create minidump file"
  | deliverySkipped => "minidump path exceeds capacity, skipping callback"

/-- The path of a dump, for the one whom the context stands for. -/
structure Notification (C U : Type) where
  context : C
  path : List U
deriving DecidableEq, Repr

/-- What comes of reporting a dump. -/
structure Report (C U : Type) where
  /-- The dump was written. -/
  handled : Bool
  /-- Who is told, unless the path does not fit. -/
  notification : Option (Notification C U)
  /-- What is printed. -/
  notice : Option Notice
deriving DecidableEq, Repr

namespace Bridge

variable {C : Type} {p : Platform}

/-- Reports the dump `id` in a directory. -/
def deliverJoined (context : C) (directory id : List p.PathUnit) (succeeded : Bool) :
    Report C p.PathUnit :=
  match (PathBuffer.compose directory id).run
      (PathBuffer.new : PathBuffer p.PathUnit p.maxPathUnits) with
  | .ok _ buffer => ⟨succeeded, some ⟨context, buffer.contents⟩, none⟩
  | .error _ _ => ⟨succeeded, none, some .deliverySkipped⟩

/-- Reports the dump at a path. -/
def deliverComplete (context : C) (path : List p.PathUnit) (succeeded : Bool) :
    Report C p.PathUnit :=
  ⟨succeeded, some ⟨context, path⟩, none⟩

/-- What a native handler reports, apart from the context. -/
inductive Delivery (U : Type) where
  | joined (directory id : List U) (succeeded : Bool)
  | complete (path : List U) (succeeded : Bool)
deriving DecidableEq, Repr

/-- Reports a dump to a context. -/
def deliver (context : C) : Delivery p.PathUnit → Report C p.PathUnit
  | .joined directory id succeeded => deliverJoined context directory id succeeded
  | .complete path succeeded => deliverComplete context path succeeded

end Bridge

end CrashDump
