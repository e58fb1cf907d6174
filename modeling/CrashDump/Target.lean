import CrashDump.DumpFile
import CrashDump.DumpId

/-!
# Dump targets

A target is what a native handler needs when a crash comes: the directory, the context to report
to, and the name of the next dump.  On Linux the whole path is composed ahead of time, so that
only opening is left to do; elsewhere the id is kept and the path composed when it is needed.

`new` names the first dump, `fault` writes and reports one, and `rename` names the next.
-/

namespace CrashDump

/-- Where the next dump goes. -/
inductive NextDump (U : Type) (capacity : Nat) where
  /-- To this path. -/
  | composed (path : PathBuffer U capacity)
  /-- To the file with this id. -/
  | named (id : Uuid)

/-- What a native handler works with in a crash. -/
structure Target (p : Platform) where
  directory : List p.PathUnit
  /-- The address of the context that is told. -/
  context : Address
  next : NextDump p.PathUnit p.maxPathUnits

namespace NextDump

/-- Composes a dump's path in a buffer, which is left empty if there is no room. -/
def recompose {U : Type} {capacity : Nat} [CodeUnit U] (path : PathBuffer U capacity)
    (directory : List U) (id : Uuid) : PathBuffer U capacity :=
  match (PathBuffer.compose directory id.units).run path with
  | .ok _ path => path
  | .error _ path => path.cleared

/-- The next dump, before there was any. -/
def first : (p : Platform) → List p.PathUnit → Uuid → NextDump p.PathUnit p.maxPathUnits
  | .linux, directory, id => .composed (recompose .new directory id)
  | .mac, _, id => .named id
  | .windows, _, id => .named id

/-- The dump after this one. -/
def rename {U : Type} {capacity : Nat} [CodeUnit U] (directory : List U) (id : Uuid) :
    NextDump U capacity → NextDump U capacity
  | composed path => .composed (recompose path directory id)
  | named _ => .named id

end NextDump

/-- What a crash does by way of a target. -/
structure Fault (p : Platform) where
  /-- The files afterwards. -/
  files : FileSystem
  /-- What was seen while the dump was written. -/
  dump : Trace p
  /-- The report that follows. -/
  report : Report Address p.PathUnit

namespace Target

variable {p : Platform}

/-- The target for a directory and a context, with the id of its first dump. -/
def new (directory : List p.PathUnit) (context : Address) (id : Uuid) : Target p where
  directory := directory
  context := context
  next := .first p directory id

/-- Names the next dump. -/
def rename (target : Target p) (id : Uuid) : Target p :=
  { target with next := target.next.rename target.directory id }

/-- The bytes or units that the file of a composed path is opened by. -/
def openingUnits : (p : Platform) → PathBuffer p.PathUnit p.maxPathUnits → List p.PathUnit
  | .linux, path => path.terminated.1
  | .mac, path => path.terminated.1
  | .windows, path => path.contents

/-- Writes a dump for a crash and reports it. -/
def fault (target : Target p) (crash : CrashContext) (outcome : DumpOutcome)
    (files : FileSystem) : Fault p :=
  match target.next with
  | .composed path =>
    let (succeeded, files, dump) := DumpFile.write p (openingUnits p path) crash outcome files
    ⟨files, dump, Bridge.deliverComplete target.context path.contents succeeded⟩
  | .named id =>
    let (succeeded, files, dump) :=
      match (PathBuffer.compose target.directory id.units).run
          (PathBuffer.new : PathBuffer p.PathUnit p.maxPathUnits) with
      | .ok _ path => DumpFile.write p (openingUnits p path) crash outcome files
      | .error _ _ => (false, files, [])
    ⟨files, dump, Bridge.deliverJoined target.context target.directory id.units succeeded⟩

end Target

end CrashDump
