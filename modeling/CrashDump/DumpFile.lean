import CrashDump.Observation

/-!
# The file of a dump

How a dump gets into its file.  Linux and mac open the file with the system call, which reads a
path up to its first nul.  On windows the path is decoded and opened as programs do, which refuses
a nul.
-/

namespace CrashDump

/-- What the writer of dumps does with an open file. -/
inductive DumpOutcome where
  /-- It writes the dump. -/
  | written
  /-- It fails and writes nothing. -/
  | failed
deriving DecidableEq, Repr

namespace DumpFile

/-- The permission bits of a dump opened with the system call: its owner alone may use it. -/
def mode : Nat := 0o600

/-- What a dump starts with, which stands for all of it. -/
def minidump : List UInt8 := [0x4D, 0x44, 0x4D, 0x50]

/-- The path that the system reads from terminated bytes. -/
def upToNul (bytes : List UInt8) : Path := bytes.takeWhile (· ≠ 0)

/-- Opens the file of a dump, given its path and, where the system asks for one, the terminator. -/
def openFor : (p : Platform) → List p.PathUnit → FileSystem →
    Except IoError (Location × FileSystem)
  | .linux, path, files => files.openFile (upToNul path) mode
  | .mac, path, files => files.openFile (upToNul path) mode
  | .windows, path, files => files.createFile (Platform.windows.codec.decode path)

/-- What is printed if the file cannot be opened. -/
def openNotice : Platform → Notice
  | .linux => .openFailed
  | .mac => .openFailed
  | .windows => .createFailed

/-- Writes a dump for a crash to the file at a path: whether it was written, the files afterwards,
and what was seen. -/
def write (p : Platform) (path : List p.PathUnit) (crash : CrashContext) (outcome : DumpOutcome)
    (files : FileSystem) : Bool × FileSystem × Trace p :=
  match openFor p path files with
  | .error _ => (false, files, [.printed (openNotice p)])
  | .ok (location, files) =>
    match outcome with
    | .written => (true, files.setContents location minidump, [.opened location, .asked crash])
    | .failed => (false, files, [.opened location, .asked crash])

end DumpFile

end CrashDump
