/-!
# Indentation styles
-/

namespace ObjcDecl

/-- How one level of indentation is written. -/
inductive Indent where
  | spaces (width : Nat)
  | tab
deriving DecidableEq, Repr

/-- The style of generated code. -/
def Indent.code : Indent := .spaces 2

/-- The text of one level. Widths other than four and eight are written
as the two spaces of generated code. -/
def Indent.text : Indent → String
  | .spaces 4 => "    "
  | .spaces 8 => "        "
  | .spaces _ => "  "
  | .tab => "\t"

end ObjcDecl
