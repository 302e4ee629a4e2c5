import ObjcDecl.Files.Access
import ObjcDecl.Toml.Parser
import ObjcDecl.Tree.Read

/-!
# Options from a file

The options are read from a TOML document with a truth value for each
switch. A switch that is not named has its default, and a file that does
not exist stands for an empty one.
-/

namespace ObjcDecl

/-- Why options cannot be loaded. -/
inductive OptionsFault where
  /-- The file cannot be read as text. -/
  | unreadable (path : String)
  /-- The text is no document of options. -/
  | malformed (fileName : String) (cause : ReadError)
deriving DecidableEq, Repr

/-- The wording of a fault. -/
def OptionsFault.message : OptionsFault → String
  | .unreadable path => "failed to read '" ++ path ++ "'"
  | .malformed fileName _ => "failed to parse " ++ fileName

/-- A value as far as a switch can be read from it. -/
def Toml.toSwitch : Toml → Json
  | .bool b => .bool b
  | _ => .unreadable

/-- The members of a document in the order in which they are read: by
name. -/
def Toml.inOrder (ms : Toml.Members) : Toml.Members :=
  ms.mergeSort fun a b => decide (a.1 ≤ b.1)

namespace Options

/-- The options that a document's members set. -/
def ofToml (ms : Toml.Members) : Except ReadError Options :=
  optionsRecord.read (.ofMembers ((Toml.inOrder ms).map fun (k, v) => (k, v.toSwitch)))

/-- The options of a text. The file name is used in the fault alone. -/
def ofText (text fileName : String) : Except OptionsFault Options :=
  match Toml.ofText text with
  | none => .error (.malformed fileName .invalid)
  | some ms => (ofToml ms).mapError (.malformed fileName)

variable {m : Type → Type} [Monad m]

/-- The options of the file at a path. -/
def load (fs : FileAccess m) (path : String) : m (Except OptionsFault Options) := do
  match ← fs.readText path with
  | none => pure (.error (.unreadable path))
  | some text => pure (ofText text path)

/-- The options of the file at a path, the default ones if nothing is
there. -/
def loadOrDefault (fs : FileAccess m) (path : String) : m (Except OptionsFault Options) := do
  if ← fs.pathExists path then load fs path else pure (.ok {})

end Options

end ObjcDecl
