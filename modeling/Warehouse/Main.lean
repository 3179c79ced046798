import Warehouse.CommandLine

/-!
The program: reads the files that the command line names, lets the library answer, and writes the
answer to standard output and any report to standard error.
-/

namespace Warehouse.CommandLine

/-- The cause of a failure to read a file. -/
def fileProblem : IO.Error → FileProblem
  | .noFileOrDirectory _ _ _ => .notFound
  | .inappropriateType _ code details =>
    if code = 21 then .isDirectory
    else if code = 20 then .notDirectory
    else .other details
  | e => .other (toString e)

/-- The text of the file at a path. -/
def readText (path : String) : IO (Except FileProblem String) := do
  match ← (IO.FS.readBinFile path).toBaseIO with
  | .ok bytes => return FolderEntry.text (.file bytes)
  | .error e => return .error (fileProblem e)

/-- The files at the paths, as they are now. -/
def readAll (paths : List String) : IO FileReader := do
  let texts ← paths.mapM fun path => return (path, ← readText path)
  return fun path => (texts.lookup path).getD (.error .notFound)

end Warehouse.CommandLine

open Warehouse.CommandLine in
/-- Runs the program. -/
def main (args : List String) : IO UInt32 := do
  match Invocation.ofArguments args with
  | .error _ =>
    IO.eprintln helpText
    return UInt32.ofNat misuseStatus
  | .ok invocation =>
    let outcome := invocation.run (.ofFiles (← readAll invocation.paths))
    IO.print outcome.output
    outcome.report.forM IO.eprintln
    return UInt32.ofNat outcome.status
