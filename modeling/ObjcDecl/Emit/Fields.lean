import ObjcDecl.Emit.Context
import ObjcDecl.Emit.DocComment
import ObjcDecl.Tree.SourceUnit

/-!
# Instance variables and field setters

The instance variables of a type are declared in one of two places, the
header or the class extension of the implementation. `FieldVisibility`
says which field statements belong to a place; the setters of a field are
registered where its variables are declared.
-/

namespace ObjcDecl

/-- The two places in which instance variables are declared. -/
inductive FieldVisibility where
  /-- The class extension: private and synthetic fields. -/
  | privateOnly
  /-- The header: the other fields, and the private ones as well while
  private members are not hidden. -/
  | nonPrivate
deriving DecidableEq, Repr

/-- Whether a field with these modifiers is declared in the place. -/
def FieldVisibility.includes (v : FieldVisibility) (ms : Modifiers) (o : Options) : Bool :=
  (!o.hidePrivate && v == .nonPrivate) || (v == .privateOnly) == ms.isPrivateOrSynthetic

/-- Whether a target type is a reference by itself: `id`, `Class`, or
`id` with a protocol. -/
def isReferenceText (typeText : String) : Bool :=
  typeText == "id" || typeText == "Class" ||
    ("id<".toList.isPrefixOf typeText.toList && typeText.toList.getLast? == some '>')

/-- Whether each variable of the type needs a `*` of its own. -/
def needsPointerMarker (t : TypeRef) (typeText : String) : Bool :=
  !t.isPrimitive && !isReferenceText typeText

/-- A text without the given ending, if it has it. -/
def dropEnding (ending s : String) : String :=
  if ending.toList.isSuffixOf s.toList then
    String.ofList (s.toList.take (s.toList.length - ending.toList.length))
  else s

namespace Field

/-- Whether the statement declares instance variables in the place. -/
def isInstanceFieldOf (f : Field) (v : FieldVisibility) (o : Options) : Bool :=
  !f.isStatic && v.includes f.modifiers o

/-- The type that the declared names of a statement share: without the
`*` where each name has its own. -/
def sharedType (names : Naming) (f : Field) : String :=
  let text := names.specificTypeText f.type
  if needsPointerMarker f.type text then dropEnding " *" text else text

/-- The mark before each declared name. -/
def pointerMark (names : Naming) (f : Field) : String :=
  if needsPointerMarker f.type (names.specificTypeText f.type) then "*" else ""

/-- The declared names, each with its mark. -/
def declarators (names : Naming) (f : Field) : String :=
  String.intercalate ", "
    (f.vars.map fun v => pointerMark names f ++ names.fieldName v.name)

/-- The qualifier of the statement, which follows its first variable. -/
def weakQualifier : List Variable → String
  | [] => ""
  | v :: _ => if v.binding.isWeak then "__weak " else ""

/-- The declaration of a statement's variables. -/
def declaration (names : Naming) (f : Field) : String :=
  weakQualifier f.vars ++ sharedType names f ++ " " ++ declarators names f ++ ";"

/-- The comment and the declaration of a statement in the type `owner`. -/
def block (c : Context) (owner : TypeRef) (f : Field) : Emission :=
  if f.vars.isEmpty then .error (.variablesMissing f.type.name owner.name)
  else .ok (DocComment.block c.detect f.doc ++ [.nested 0 (declaration c.naming f)])

/-- The registration of a variable's setter. -/
def setter (names : Naming) (owner : TypeRef) (f : Field) (v : Variable) : Line :=
  .flush ("J2OBJC_FIELD_SETTER(" ++ names.fullName owner ++ ", " ++ names.fieldName v.name ++
    ", " ++ names.typeText f.type ++ ")")

/-- The registrations of a statement: one for every variable that owns an
object. -/
def setters (names : Naming) (owner : TypeRef) (f : Field) : Block :=
  if f.type.isPrimitive then []
  else (f.vars.filter fun v => !v.binding.isWeak).map (setter names owner f)

end Field

namespace TypeDecl

/-- The field statements that declare instance variables in the place. -/
def instanceFields (d : TypeDecl) (v : FieldVisibility) (o : Options) : List Field :=
  d.fields.filter fun f => f.isInstanceFieldOf v o

/-- Whether any instance variable is declared in the place. -/
def hasInstanceVariables (d : TypeDecl) (v : FieldVisibility) (o : Options) : Bool :=
  d.fields.any fun f => f.isInstanceFieldOf v o

/-- The heading of a list of lines, dropped with it. -/
def headed (heading : Line) : Block → Block
  | [] => []
  | l :: ls => heading :: l :: ls

/-- The instance variables declared in the place, one level deeper than
their surroundings. Inner types reach each other's variables, so all of
them are public. -/
def instanceVariables (c : Context) (v : FieldVisibility) (d : TypeDecl) : Emission := do
  let b ← Block.sequence ((d.instanceFields v c.options).map (Field.block c d.type))
  pure (headed (.flush " @public") (b.deepen 1))

/-- The setters registered in the place, after a blank line. -/
def fieldSetters (c : Context) (v : FieldVisibility) (d : TypeDecl) : Block :=
  headed .blank ((d.instanceFields v c.options).flatMap (Field.setters c.naming d.type))

end TypeDecl

end ObjcDecl
