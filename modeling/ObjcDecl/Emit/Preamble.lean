import ObjcDecl.Output.Block
import ObjcDecl.Tree.SourceUnit

/-!
# The opening comment
-/

namespace ObjcDecl

/-- The comment that opens a generated file, and a blank line. -/
def SourceUnit.preamble (u : SourceUnit) : Block :=
  [.flush "//", .flush "//  Generated by the objcgen translator.",
   .flush ("//  source: " ++ u.sourcePath), .flush "//", .blank]

end ObjcDecl
