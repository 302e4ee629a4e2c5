import ObjcDecl.Text.Split
import ObjcDecl.Unicode.Uppercase

/-!
# Capitalised names
-/

namespace ObjcDecl.Text

/-- A text with its first character uppercased (`name` becomes `Name`). -/
def capitalize (s : String) : String := String.ofList (Unicode.capitalize s.toList)

/-- A package name as the head of a type name: its parts, each
capitalised, without the dots (`com.google.common` becomes
`ComGoogleCommon`). -/
def packagePrefix (package : String) : String :=
  String.ofList ((splitOn '.' package.toList).flatMap Unicode.capitalize)

end ObjcDecl.Text
