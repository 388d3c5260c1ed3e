import EventGateway.CommandLine.Run

/-!
# The program

`main` runs the program on the files of the system.
-/

namespace EventGateway

/-- The result of an action, or none if it fails. -/
def attempt {α : Type} (action : IO α) : IO (Option α) := do
  try return some (← action) catch _ => return none

/-- Whether an action succeeds. -/
def succeeds (action : IO Unit) : IO Bool :=
  Option.isSome <$> attempt action

instance : FileStore IO where
  readText? p := attempt (IO.FS.readFile p.text)
  createDirectories p := succeeds (IO.FS.createDirAll p.text)
  write p text := succeeds (IO.FS.writeFile p.text text)
  rename source target := succeeds (IO.FS.rename source.text target.text)
  remove p := discard (attempt (IO.FS.removeFile p.text))

end EventGateway

/-- Runs the program with its arguments. -/
def main (args : List String) : IO UInt32 := do
  let report ← EventGateway.CommandLine.run args
  IO.print report.output
  if let some failure := report.failure then
    IO.eprintln ("Error: " ++ failure)
  return report.exitCode.toUInt32
