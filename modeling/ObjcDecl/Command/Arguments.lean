/-!
# Arguments

What a command is given: the path of a unit, and switches before or after
it. A switch with a value is written `--name value`, `--name=value`,
`-n value`, `-nvalue` or `-n=value`. What follows `--` is no switch. Every
switch is given at most once, and no path is empty.
-/

namespace ObjcDecl

/-- The switches. -/
inductive Switch where
  | config
  | output
  | dryRun
deriving DecidableEq, Repr

namespace Switch

/-- The name after `--`. -/
def long : Switch → String
  | .config => "config"
  | .output => "output"
  | .dryRun => "dry-run"

/-- The letter after `-`, if there is one. -/
def short : Switch → Option Char
  | .config => some 'c'
  | .output => some 'o'
  | .dryRun => none

/-- Whether the switch has a value. -/
def hasValue : Switch → Bool
  | .dryRun => false
  | _ => true

end Switch

/-- What has been given so far. -/
structure Arguments where
  unit : Option String := none
  config : Option String := none
  output : Option String := none
  dryRun : Bool := false
deriving DecidableEq, Repr

namespace Arguments

/-- A path where there was none. -/
def setPath : Option String → String → Option String
  | none, p => if p.isEmpty then none else some p
  | some _, _ => none

/-- The arguments with the path of the unit. -/
def withUnit (a : Arguments) (path : String) : Option Arguments :=
  (setPath a.unit path).map fun p => { a with unit := some p }

/-- The arguments with a switch that has a value. -/
def withValue (a : Arguments) (s : Switch) (v : String) : Option Arguments :=
  match s with
  | .config => (setPath a.config v).map fun p => { a with config := some p }
  | .output => (setPath a.output v).map fun p => { a with output := some p }
  | .dryRun => none

/-- The arguments with a switch that has no value. -/
def withFlag (a : Arguments) (s : Switch) : Option Arguments :=
  match s with
  | .dryRun => if a.dryRun then none else some { a with dryRun := true }
  | _ => none

/-- How an argument reads. -/
inductive Form where
  | plain
  /-- A switch, with the value attached to it. -/
  | switch (s : Switch) (value : Option String)
  | unknown

/-- A text without the character at its head, if it has it. -/
def attached : List Char → List Char
  | '=' :: cs => cs
  | cs => cs

/-- How an argument that starts with `--` reads, without its dashes. -/
def longForm (known : List Switch) (cs : List Char) : Form :=
  let name := String.ofList (cs.takeWhile (· != '='))
  let value :=
    match cs.dropWhile (· != '=') with
    | [] => none
    | _ :: v => some (String.ofList v)
  match known.find? fun s => s.long == name with
  | some s => .switch s value
  | none => .unknown

/-- How an argument that starts with `-` and a letter reads. -/
def shortForm (known : List Switch) (c : Char) (cs : List Char) : Form :=
  match known.find? fun s => s.short == some c with
  | some s => .switch s (if cs.isEmpty then none else some (String.ofList (attached cs)))
  | none => .unknown

/-- How an argument reads. A dash alone is no switch. -/
def form (known : List Switch) (arg : String) : Form :=
  match arg.toList with
  | '-' :: '-' :: cs => longForm known cs
  | '-' :: c :: cs => shortForm known c cs
  | _ => .plain

/-- Reads arguments after those that have been read; none if they make no
sense. -/
def read (known : List Switch) : Arguments → List String → Option Arguments
  | a, [] => some a
  | a, arg :: rest =>
    if arg = "--" then rest.foldlM withUnit a
    else
      match form known arg with
      | .unknown => none
      | .plain => do
        let a ← a.withUnit arg
        read known a rest
      | .switch s (some v) => do
        let a ← a.withValue s v
        read known a rest
      | .switch s none =>
        if s.hasValue then
          match rest with
          | [] => none
          | v :: rest =>
            match form known v with
            | .plain => do
              let a ← a.withValue s v
              read known a rest
            | _ => none
        else do
          let a ← a.withFlag s
          read known a rest

end Arguments

end ObjcDecl
