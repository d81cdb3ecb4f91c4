import ClassLiterals.Command.Run

/-!
# The program

Finds and translates the user-visible texts of class files:

    scan [--config FILE] [--concurrency N] CLASS…
    rewrite --glossary FILE --out-dir DIR [--config FILE] [--concurrency N] [--batch-size N] CLASS…
-/

namespace ClassLiterals.Command

/-- Whether an action ends without an error. -/
def succeeds (action : IO Unit) : IO Bool := do
  try
    action
    return true
  catch _ => return false

/-- The files of the machine. -/
def realFiles : FileSystem IO where
  read path := do
    try
      return some (← IO.FS.readBinFile path).toList
    catch _ => return none
  makeDirectory path := succeeds (if path.isEmpty then pure () else IO.FS.createDirAll path)
  write path bytes := succeeds (IO.FS.writeBinFile path ⟨bytes.toArray⟩)
  print := IO.println

/-- Runs a command line on the files of the machine. -/
def runOnFiles (args : List String) : IO UInt32 := do
  let outcome ← run realFiles args
  match outcome with
  | .succeeded => pure ()
  | .failed e => IO.eprintln ("Error: " ++ e.message)
  | .badUsage => IO.eprintln "error: the arguments describe no command"
  return outcome.status.toUInt32

end ClassLiterals.Command

/-- Runs the program. -/
def main (args : List String) : IO UInt32 :=
  ClassLiterals.Command.runOnFiles args
