import ObjcDecl.Naming.Basic
import ObjcDecl.Tree.SourceUnit

/-!
# What every enum provides

The constants of an enum are kept in an array, and every enum has two
class methods: one gives the array, the other finds a constant by name.
-/

namespace ObjcDecl.TypeDecl

/-- The array of an enum's constants. -/
def enumValuesName (names : Naming) (d : TypeDecl) : String :=
  names.fullName d.type ++ "_values_"

/-- The number of an enum's constants. -/
def enumSize (d : TypeDecl) : String := toString d.enumConstants.length

/-- The method that gives all constants. -/
def valuesMethod (names : Naming) (d : TypeDecl) : Method :=
  { name := "values"
    owner := d.type
    modifiers := ⟨[.staticMember]⟩
    returnType := .arrayOf d.type
    body :=
      ["return [IOSObjectArray arrayWithObjects:" ++ d.enumValuesName names ++ " count:" ++
        d.enumSize ++ " type:" ++ names.fullName d.type ++ "_class_()];"] }

/-- The method that finds a constant by its name. -/
def valueOfMethod (names : Naming) (d : TypeDecl) : Method :=
  { name := "valueOf"
    owner := d.type
    modifiers := ⟨[.staticMember]⟩
    returnType := d.type
    parameters := [⟨"name", .string⟩]
    body :=
      ["for (int i = 0; i < " ++ d.enumSize ++ "; i++) \x7b",
       "  " ++ names.fullName d.type ++ " *e = " ++ d.enumValuesName names ++ "[i];",
       "  if ([name isEqual:[e name]]) \x7b",
       "    return e;",
       "  \x7d",
       "\x7d",
       "@throw create_JavaLangIllegalArgumentException_initWithNSString_(name);"] }

/-- The methods that every enum provides. -/
def enumSupport (names : Naming) (d : TypeDecl) : List Method :=
  [d.valuesMethod names, d.valueOfMethod names]

end ObjcDecl.TypeDecl
