import ObjcDecl.Fault
import ObjcDecl.Naming.Basic
import ObjcDecl.Options
import ObjcDecl.Output.Block
import ObjcDecl.Text.Sentence

/-!
# What an emitter depends on

An emitter turns a piece of the tree into a block of lines, or reports
the fault that keeps it from doing so. Besides the piece it sees a
context, and nothing else.
-/

namespace ObjcDecl

/-- The switches, the naming table and the sentence detector of a run. -/
structure Context where
  options : Options := {}
  naming : Naming
  detect : Text.SentenceDetector := Text.Sentence.unicode

/-- What an emitter gives: lines, or the fault that stops generation. -/
abbrev Emission := Except Fault Block

end ObjcDecl
