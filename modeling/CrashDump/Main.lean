import CrashDump.Demo

/-!
# The command line of the demonstration

`--crash` has the program crash, `--raw` has it use the raw interface.
-/

open CrashDump

/-- The argument that selects the raw interface. -/
def rawArgument : String := "--raw"

/-- The status that a shell reports for an ending. -/
def status : Demo.Ending → UInt32
  | .exited code => code.toUInt32
  | .killed signal => (128 + signal).toUInt32

/-- Runs the demonstration in the current directory. -/
def main (arguments : List String) : IO UInt32 := do
  let directory := Text.Utf8.encode (← IO.currentDir).toString.toList
  let random ← IO.getRandomBytes 16
  let seed := random.foldl (fun n b => n * 256 + b.toNat) 0
  let files := FileSystem.ofWorkingDirectory (Path.names directory)
  let interface : Demo.Interface := if rawArgument ∈ arguments then .raw else .typed
  let outcome := Demo.run interface arguments (.initial .linux files (.fromSeed seed))
  for notice in outcome.notices do
    IO.eprintln notice.message
  for line in outcome.output do
    IO.println line
  return status outcome.ending
