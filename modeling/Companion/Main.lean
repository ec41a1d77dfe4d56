import Companion.CommandLine.Run

/-!
# The program

The command line on the files of the system.
-/

namespace Companion

/-- Why the system refused an operation. -/
def PathFault.ofError (error : IO.Error) : PathFault :=
  match error with
  | .noFileOrDirectory _ _ _ => .absent
  | .alreadyExists _ _ _ => .present
  | .inappropriateType _ code _ => if code = 21 then .directory else .notDirectory
  | _ => .other (toString error)

/-- Try an operation. -/
def attempt (action : IO Unit) : IO (Option PathFault) := do
  try
    action
    return none
  catch error => return some (.ofError error)

/-- Keep files on the system. -/
def systemStorage : Storage IO where
  read path := do
    try return some (← IO.FS.readFile path)
    catch _ => return none
  makeDirectory path := attempt (IO.FS.createDir path)
  isDirectory path := do
    try (← IO.FS.realPath path).isDir
    catch _ => return false
  write path content := attempt (IO.FS.writeFile path content)

end Companion

/-- Run the program with the arguments of the command line. -/
def main (arguments : List String) : IO UInt32 := do
  let report ← Companion.CommandLine.run Companion.systemStorage arguments
  IO.print report.output
  IO.eprint report.errors
  return report.exit.toUInt32
