import ObjcDecl.Assoc
import ObjcDecl.Files.Access
import ObjcDecl.Files.Path

/-!
# A tree of files in memory

A tree lists what is at each place, a place being the names that lead to
it from the root. A path is followed name by name; every name but the last
has to lead to a directory, and so does the last one if a `/` follows it.
-/

namespace ObjcDecl

/-- What is at a place. Content that is not text is not kept. -/
inductive FileEntry where
  | directory
  | file (content : Option String)
deriving DecidableEq, Repr

/-- Files and directories, and the directory at which paths start. -/
structure FileTree where
  workingDirectory : List String := []
  entries : List (List String × FileEntry) := []
deriving Repr

namespace FileTree

/-- What is at a place; the root is always there. -/
def entry (t : FileTree) (place : List String) : Option FileEntry :=
  if place.isEmpty then some .directory else t.entries.lookup place

/-- Whether there is a directory at a place. -/
def isDirectory (t : FileTree) (place : List String) : Bool := t.entry place == some .directory

/-- The tree with another entry at a place. -/
def put (t : FileTree) (place : List String) (e : FileEntry) : FileTree :=
  { t with entries := Assoc.put place e t.entries }

/-- Whether a file can have the name. -/
def isFileName (name : String) : Bool := name.utf8ByteSize ≤ 255

/-- The step from a place by one name of a path. -/
def step (place : List String) (name : String) : Option (List String) :=
  if name = "" ∨ name = "." then some place
  else if name = ".." then some place.dropLast
  else if isFileName name then some (place ++ [name])
  else none

/-- The place to which names lead. -/
def follow (t : FileTree) : List String → List String → Option (List String)
  | place, [] => some place
  | place, n :: ns =>
    if t.isDirectory place then
      match step place n with
      | some place => t.follow place ns
      | none => none
    else none

/-- The place at which a path starts. -/
def start (t : FileTree) (path : String) : List String :=
  if Path.isAbsolute path then [] else t.workingDirectory

/-- The place of a path. The last name need not exist. -/
def place (t : FileTree) (path : String) : Option (List String) :=
  if path.isEmpty || !Path.isValid path then none
  else t.follow (t.start path) (Path.names path)

/-- What is at a path. -/
def find (t : FileTree) (path : String) : Option FileEntry := (t.place path).bind t.entry

/-- The text of the file at a path. -/
def readText (t : FileTree) (path : String) : Option String :=
  match t.find path with
  | some (.file content) => content
  | _ => none

/-- The tree with new content in the file at a path. -/
def writeText (t : FileTree) (path content : String) : Option FileTree := do
  let place ← t.place path
  if t.isDirectory place then none else pure (t.put place (.file (some content)))

/-- Makes the directories to which names lead, one after the other, as far
as that is possible. -/
def makeAlong (t : FileTree) : List String → List String → FileTree × Bool
  | _, [] => (t, true)
  | place, n :: ns =>
    match step place n with
    | none => (t, false)
    | some place =>
      match t.entry place with
      | some .directory => t.makeAlong place ns
      | some (.file _) => (t, false)
      | none => (t.put place .directory).makeAlong place ns

/-- Makes the directory at a path and those on the way to it. -/
def makeDirectories (t : FileTree) (path : String) : FileTree × Bool :=
  if Path.isValid path then t.makeAlong (t.start path) (Path.names path) else (t, false)

/-- Access to a tree that is passed along. -/
def access : FileAccess (StateM FileTree) where
  pathExists path := do pure ((← get).find path).isSome
  readText path := do pure ((← get).readText path)
  makeDirectories path := do
    let (t, done) := (← get).makeDirectories path
    set t
    pure done
  writeText path content := do
    match (← get).writeText path content with
    | some t => set t; pure true
    | none => pure false

/-- The files below a place, by their paths from there. -/
def filesBelow (t : FileTree) (place : List String) : List (String × Option String) :=
  t.entries.filterMap fun
    | (p, .file content) =>
      if place.isPrefixOf p then
        some (String.intercalate "/" (p.drop place.length), content)
      else none
    | (_, .directory) => none

end FileTree

end ObjcDecl
