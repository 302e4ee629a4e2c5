/-!
# Access to files

What the commands need of the files around them. Commands are written
against this interface, so they run on the files of the machine as well
as on a tree of files in memory.
-/

namespace ObjcDecl

/-- The operations on files. None of them stops a run by itself: what
cannot be done is reported. -/
structure FileAccess (m : Type → Type) where
  /-- Whether there is a file or directory at a path. -/
  pathExists : String → m Bool
  /-- The content of a file, if it is there and is text. -/
  readText : String → m (Option String)
  /-- Makes a directory and those on the way to it, as far as they do not
  exist. The answer is whether they all exist now. -/
  makeDirectories : String → m Bool
  /-- Gives a file new content. The answer is whether it has it now. -/
  writeText : String → String → m Bool

/-- Gives a file new content unless it has that content already. The
answer is whether it had to be changed, or none if it could not be. -/
def FileAccess.writeIfChanged {m : Type → Type} [Monad m] (fs : FileAccess m)
    (path directory content : String) : m (Option Bool) := do
  if (← fs.readText path) == some content then pure (some false)
  else if ← fs.makeDirectories directory then
    if ← fs.writeText path content then pure (some true) else pure none
  else pure none

end ObjcDecl
