import ObjcDecl.Command.Run

/-!
# The program
-/

namespace ObjcDecl

/-- Whether an action succeeds. -/
def succeeds (action : IO Unit) : IO Bool := do
  try
    action
    pure true
  catch _ => pure false

/-- Access to the files of the machine. -/
def machineFiles : FileAccess IO where
  pathExists path := succeeds (discard (IO.FS.realPath path))
  readText path := do
    try
      pure (some (← IO.FS.readFile path))
    catch _ => pure none
  makeDirectories path := if path.isEmpty then pure true else succeeds (IO.FS.createDirAll path)
  writeText path content := succeeds (IO.FS.writeFile path content)

end ObjcDecl

/-- Runs a command line: prints its output and ends with its exit code. -/
def main (args : List String) : IO UInt32 := do
  let outcome ← ObjcDecl.Command.runArgs ObjcDecl.machineFiles args
  IO.print outcome.output
  pure outcome.code
