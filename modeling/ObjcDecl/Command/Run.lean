import ObjcDecl.Command.Arguments
import ObjcDecl.Command.Report
import ObjcDecl.Files.Path
import ObjcDecl.Options.Load

/-!
# Commands

A command reads a unit and its options and prints or writes the generated
text. Nothing is written before all of it has been generated. A run ends
with an exit code and what it has printed; a run that fails prints
nothing.
-/

namespace ObjcDecl

/-- The commands, with what they are given. -/
inductive Command where
  | version
  | generate (unit config output : String) (dryRun : Bool)
  | header (unit config : String)
  | implementation (unit config : String)
deriving DecidableEq, Repr

/-- How a run ends. -/
structure Outcome where
  code : UInt32
  output : String := ""
deriving DecidableEq, Repr

namespace Outcome

/-- The end of a run that printed a text. -/
def success (output : String) : Outcome := ⟨0, output⟩

/-- The end of a run that could not read or write something. -/
def failure : Outcome := ⟨1, ""⟩

/-- The end of a run whose arguments make no sense. -/
def misuse : Outcome := ⟨2, ""⟩

/-- The end of a run that a fault stopped. -/
def stopped : Outcome := ⟨101, ""⟩

/-- The end of a run that prints a text, unless a fault stops it. -/
def ofText : Except Fault String → Outcome
  | .ok s => success s
  | .error _ => stopped

end Outcome

namespace Command

/-- The name of the program and its version. -/
def versionText : String := "objcgen 0.3.0\n"

/-- Where options are read from if nothing else is said. -/
def defaultConfig : String := "objcgen.toml"

/-- Where files are written to if nothing else is said. -/
def defaultOutput : String := "."

/-- The command of a name, after its arguments have been read. -/
def build (known : List Switch) (args : List String)
    (command : (unit config : String) → Arguments → Command) : Option Command := do
  let a ← Arguments.read known {} args
  let unit ← a.unit
  pure (command unit (a.config.getD defaultConfig) a)

/-- The command that arguments ask for; none if they make no sense. -/
def ofArgs : List String → Option Command
  | "generate" :: args =>
    build [.config, .output, .dryRun] args fun unit config a =>
      .generate unit config (a.output.getD defaultOutput) a.dryRun
  | "header" :: args => build [.config] args fun unit config _ => .header unit config
  | "impl" :: args => build [.config] args fun unit config _ => .implementation unit config
  | "--version" :: _ => some .version
  | arg :: _ => if "-V".toList.isPrefixOf arg.toList then some .version else none
  | [] => none

variable {m : Type → Type} [Monad m]

/-- Reads the options and then the unit, and goes on with both if they
could be read. -/
def withInput (fs : FileAccess m) (unit config : String)
    (next : SourceUnit → Options → m Outcome) : m Outcome := do
  match ← Options.loadOrDefault fs config with
  | .error _ => pure .failure
  | .ok o =>
    match ← fs.readText unit with
    | none => pure .failure
    | some text =>
      match SourceUnit.ofText text with
      | .error _ => pure .failure
      | .ok u => next u o

/-- Writes files into a directory, one after the other, up to the first
that cannot be written. -/
def writeFiles (fs : FileAccess m) (directory : String) :
    List GeneratedFile → m (Option (List Report.Written))
  | [] => pure (some [])
  | f :: rest => do
    let path := Path.join directory f.path
    match ← fs.writeIfChanged path (Path.parent path) f.content with
    | none => pure none
    | some changed =>
      match ← writeFiles fs directory rest with
      | none => pure none
      | some ws => pure (some ((f, changed) :: ws))

/-- Generates the files of a unit. -/
def generateFiles (fs : FileAccess m) (directory : String) (dryRun : Bool)
    (u : SourceUnit) (o : Options) : m Outcome :=
  match u.files o with
  | .error _ => pure .stopped
  | .ok files =>
    if dryRun then pure (.success (Report.ofPreview files))
    else do
      match ← writeFiles fs directory files with
      | none => pure .failure
      | some ws => pure (.success (Report.ofWritten u directory ws))

/-- Runs a command. -/
def run (fs : FileAccess m) : Command → m Outcome
  | .version => pure (.success versionText)
  | .generate unit config output dryRun =>
    withInput fs unit config (generateFiles fs output dryRun)
  | .header unit config => withInput fs unit config fun u o => pure (.ofText (u.header o))
  | .implementation unit config =>
    withInput fs unit config fun u o => pure (.ofText (u.implementation o))

/-- Runs the command that arguments ask for. -/
def runArgs (fs : FileAccess m) (args : List String) : m Outcome :=
  match ofArgs args with
  | none => pure .misuse
  | some c => c.run fs

end Command

end ObjcDecl
