import ObjcDecl.Emit.Implementation
import ObjcDecl.Naming.Prefixed
import ObjcDecl.Output.Indent
import ObjcDecl.Text.Capital

/-!
# Generated files

A source unit gives two files, named after its first type's package and
its source file: a header and an implementation. A unit without types
gives none.
-/

namespace ObjcDecl

open Text

/-- A file to be written, by its path within the output directory. -/
structure GeneratedFile where
  path : String
  content : String
deriving DecidableEq, Repr

namespace SourceUnit

/-- What the emitters of a run depend on. -/
def context (o : Options) : Context := { options := o, naming := Naming.prefixed }

/-- The name of the generated files, without extension. -/
def fileName (u : SourceUnit) : Option String :=
  u.types.head?.map fun d => packagePrefix d.type.package ++ u.mainTypeName

/-- The text of a block that starts at the margin. -/
def textOf (b : Block) : String := b.render Indent.code.text 0

/-- The text of the header. -/
def header (u : SourceUnit) (o : Options) : Except Fault String :=
  (Header.file (context o) u (u.fileName.getD "")).map textOf

/-- The text of the implementation. -/
def implementation (u : SourceUnit) (o : Options) : Except Fault String :=
  (Implementation.file (context o) u (u.fileName.getD "")).map textOf

/-- The files of a unit, the header first. -/
def files (u : SourceUnit) (o : Options) : Except Fault (List GeneratedFile) :=
  match u.fileName with
  | none => .ok []
  | some name => do
    let header ← u.header o
    let implementation ← u.implementation o
    pure [⟨name ++ ".h", header⟩, ⟨name ++ ".m", implementation⟩]

end SourceUnit

end ObjcDecl
