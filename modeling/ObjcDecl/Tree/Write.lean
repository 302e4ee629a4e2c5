import ObjcDecl.Json.Printer
import ObjcDecl.Options
import ObjcDecl.Tree.SourceUnit

/-!
# Writing trees

The canonical form of a tree as a JSON value: every field is written, in
the order of its declaration, absent ones as `null`, and alternatives that
carry nothing by their names alone.
-/

namespace ObjcDecl

/-- A list of texts as a value. -/
def stringsJson (ss : List String) : Json := .array (ss.map .string)

/-- An optional text as a value. -/
def optionalString (s : Option String) : Json := Json.ofOption (s.map .string)

/-- The name of a kind of type. -/
def NamedKind.name : NamedKind → String
  | .primitive => "primitive"
  | .classType => "class"
  | .interfaceType => "interface"
  | .rootObject => "object"
  | .classHandle => "class_handle"

/-- The name of a modifier. -/
def Modifier.name : Modifier → String
  | .publicAccess => "public"
  | .protectedAccess => "protected"
  | .privateAccess => "private"
  | .staticMember => "static"
  | .final => "final"
  | .abstract => "abstract"
  | .native => "native"
  | .synthetic => "synthetic"

/-- The name of a kind of declared type. -/
def DeclKind.name : DeclKind → String
  | .classDecl => "class"
  | .enumDecl => "enum"
  | .annotationDecl => "annotation"

namespace TypeRef

/-- A type as a value. -/
def toJson : TypeRef → Json
  | .named k n => .ofMembers [("name", .string n), ("kind", .string k.name)]
  | .array n element =>
    .ofMembers [("name", .string n), ("kind", .ofMembers [("array", element.toJson)])]

end TypeRef

/-- Modifiers as a value. -/
def Modifiers.toJson (ms : Modifiers) : Json := stringsJson (ms.toList.map Modifier.name)

/-- An annotation as a value. -/
def Annotation.toJson (a : Annotation) : Json := .ofMembers [("type_name", .string a.typeName)]

mutual

/-- A fragment as a value. -/
def DocFragment.toJson : DocFragment → Json
  | .text s => .ofMembers [("text", .string s)]
  | .tag n fs =>
    .ofMembers [("tag", .ofMembers
      [("name", optionalString n), ("fragments", .array (fragmentsJson fs))])]
  | .reference s => .ofMembers [("reference", .string s)]

/-- Fragments as values. -/
def fragmentsJson : List DocFragment → List Json
  | [] => []
  | f :: fs => f.toJson :: fragmentsJson fs

end

/-- A tag as a value. -/
def DocTag.toJson (t : DocTag) : Json :=
  .ofMembers [("name", optionalString t.name), ("fragments", .array (fragmentsJson t.fragments))]

/-- A comment as a value. -/
def Doc.toJson (d : Doc) : Json := .ofMembers [("tags", .array (d.tags.map DocTag.toJson))]

/-- An optional comment as a value. -/
def optionalDoc (d : Option Doc) : Json := Json.ofOption (d.map Doc.toJson)

/-- A parameter as a value. -/
def Parameter.toJson (p : Parameter) : Json :=
  .ofMembers [("name", .string p.name), ("ty", p.type.toJson)]

/-- The members of a method's value. -/
def Method.members (m : Method) : List (String × Json) :=
  [("name", .string m.name), ("declaring_type", m.owner.toJson),
   ("modifiers", m.modifiers.toJson), ("is_constructor", .bool m.isConstructor),
   ("return_type", m.returnType.toJson),
   ("parameters", .array (m.parameters.map Parameter.toJson)),
   ("annotations", .array (m.annotations.map Annotation.toJson)),
   ("javadoc", optionalDoc m.doc), ("selector", optionalString m.selector),
   ("body", stringsJson m.body)]

/-- What is known of a variable, as a value. -/
def Binding.toJson (b : Binding) : Json :=
  .ofMembers [("is_static", .bool b.isStatic), ("is_weak", .bool b.isWeak),
    ("is_primitive_constant", .bool b.isPrimitiveConstant)]

/-- A variable as a value. -/
def Variable.toJson (v : Variable) : Json :=
  .ofMembers [("name", .string v.name), ("binding", v.binding.toJson)]

/-- The members of a field statement's value. -/
def Field.members (f : Field) : List (String × Json) :=
  [("modifiers", f.modifiers.toJson), ("ty", f.type.toJson),
   ("fragments", .array (f.vars.map Variable.toJson)), ("javadoc", optionalDoc f.doc)]

/-- The members of a function's value. -/
def Function.members (f : Function) : List (String × Json) :=
  [("name", .string f.name), ("return_type", f.returnType.toJson),
   ("parameters", .array (f.parameters.map Parameter.toJson)),
   ("modifiers", f.modifiers.toJson), ("body", stringsJson f.body)]

/-- The members of the value of a block of target code. -/
def NativeBlock.members (n : NativeBlock) : List (String × Json) :=
  [("header_code", optionalString n.headerCode),
   ("implementation_code", optionalString n.implementationCode)]

/-- The members of an annotation member's value. -/
def AnnotationMember.members (m : AnnotationMember) : List (String × Json) :=
  [("name", .string m.name), ("ty", m.type.toJson)]

/-- The members of the value of a member of a body, apart from its kind. -/
def Member.fields : Member → List (String × Json)
  | .method m => m.members
  | .field f => f.members
  | .function f => f.members
  | .native n => n.members
  | .initializer s => [("is_static", .bool s)]
  | .enumConstant n => [("name", .string n)]
  | .annotationMember m => m.members

/-- A member of a body as a value, its kind first. -/
def Member.toJson (m : Member) : Json := .ofMembers (("kind", .string m.kindName) :: m.fields)

/-- An optional type as a value. -/
def optionalType (t : Option TypeRef) : Json := Json.ofOption (t.map TypeRef.toJson)

/-- A type declaration as a value. -/
def TypeDecl.toJson (d : TypeDecl) : Json :=
  .ofMembers [("kind", .string d.kind.name), ("ty", d.type.toJson),
    ("superclass", optionalType d.superclass),
    ("interfaces", .array (d.interfaces.map TypeRef.toJson)),
    ("modifiers", d.modifiers.toJson), ("javadoc", optionalDoc d.doc),
    ("body", .array (d.body.map Member.toJson)),
    ("class_init_statements", stringsJson d.classInit)]

/-- A source unit as a value. -/
def SourceUnit.toJson (u : SourceUnit) : Json :=
  .ofMembers [("source_path", .string u.sourcePath), ("types", .array (u.types.map TypeDecl.toJson))]

/-- The text of a source unit. -/
def SourceUnit.toText (u : SourceUnit) : String := Json.render u.toJson

/-- Options as a value. -/
def Options.toJson (o : Options) : Json :=
  .ofMembers [("emit-deprecated-declarations", .bool o.emitDeprecated),
    ("hide-private-members", .bool o.hidePrivate)]

end ObjcDecl
