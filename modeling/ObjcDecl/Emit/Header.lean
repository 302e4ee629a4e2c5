import ObjcDecl.Emit.Attributes
import ObjcDecl.Emit.Dispatch
import ObjcDecl.Emit.EnumSupport
import ObjcDecl.Emit.Hidden
import ObjcDecl.Emit.Preamble
import ObjcDecl.Emit.Statics

/-!
# The header

The header declares all that other files may use of a type: its instance
variables, the methods and constructors that are not hidden, its field
setters, the accessors of its static variables and its exported
functions.
-/

namespace ObjcDecl.Header

open Unicode

/-- The superclass of every enum. -/
def enumSuperclass : String := "JavaLangEnum"

/-- The protocol that every annotation type adopts. -/
def annotationProtocol : String := "JavaLangAnnotationAnnotation"

/-- The superclass of a class that has none. -/
def rootClass : String := "NSObject"

/-- A block of target code as the file holds it, after a blank line. -/
def nativeCode : Option String → Block
  | none => []
  | some code => [.blank, .flush (String.ofList (trimEnd code.toList))]

/-- What the header does with the members of a type. -/
def memberHooks (c : Context) (isInner : Bool) : MemberHooks Emission where
  normalMethod m := if m.modifiers.isHidden c.options then .ok [] else m.normalDeclaration c
  constructor m :=
    if m.modifiers.isHidden c.options then .ok [] else m.constructorDeclaration c isInner
  function f :=
    .ok (if f.isPrivate then []
      else [.blank, .flush ("FOUNDATION_EXPORT " ++ Signature.function c.naming f ++ ";")])
  native n := .ok (nativeCode n.headerCode)

/-- The protocols that a type adopts. -/
def protocols (names : Naming) : List TypeRef → String
  | [] => ""
  | ts => " < " ++ String.intercalate ", " (ts.map names.fullName) ++ " >"

/-- The first line of a type's interface. -/
def interfaceLine (names : Naming) (d : TypeDecl) (superclass : String) : String :=
  "@interface " ++ names.fullName d.type ++ " : " ++ superclass ++ protocols names d.interfaces

/-- The comment and the opening of a type's interface, with its instance
variables in braces if there are any. -/
def interface (c : Context) (d : TypeDecl) (superclass : String) : Emission := do
  let opening := interfaceLine c.naming d superclass
  let ivars ← d.instanceVariables c .nonPrivate
  pure (.blank :: DocComment.block c.detect d.doc ++
    if d.hasInstanceVariables .nonPrivate c.options then
      .flush (opening ++ " \x7b") :: ivars ++ [.flush "\x7d"]
    else [.flush opening])

/-- What follows a type's interface: its initialisation, setters, static
accessors, exported functions and type literal. -/
def trailer (c : Context) (d : TypeDecl) (hasInitialize : Bool) : Emission := do
  let fullName := c.naming.fullName d.type
  let initMacro := if hasInitialize then "J2OBJC_STATIC_INIT" else "J2OBJC_EMPTY_STATIC_INIT"
  let functions ← Block.sequence ((memberHooks c false).functions d.body)
  pure ([.blank, .flush (initMacro ++ "(" ++ fullName ++ ")")] ++
    d.fieldSetters c .nonPrivate ++ d.staticAccessors c.naming ++ functions ++
    [.blank, .flush ("J2OBJC_TYPE_LITERAL_HEADER(" ++ fullName ++ ")")])

/-- The end of an interface, after a blank line. -/
def ending : Block := [.blank, .flush "@end"]

/-- The target name of a class's superclass. -/
def superclassName (names : Naming) (d : TypeDecl) : String :=
  match d.superclass with
  | some t => names.fullName t
  | none => rootClass

/-- The header's text for a class. -/
def classDecl (c : Context) (d : TypeDecl) : Emission := do
  let opening ← interface c d (superclassName c.naming d)
  let declarations ← Block.sequence ((memberHooks c d.isInner).declarations d.body)
  let trailer ← trailer c d d.hasInitialize
  pure (opening ++ declarations ++ ending ++ trailer)

/-- The enumeration of an enum's constants, numbered from zero. -/
def enumeration (names : Naming) (d : TypeDecl) : Block :=
  let enumName := names.fullName d.type ++ "_Enum"
  [.blank, .flush ("typedef NS_ENUM(NSUInteger, " ++ enumName ++ ") \x7b")] ++
    d.enumConstants.zipIdx.map (fun (name, i) =>
      .nested 1 (enumName ++ "_" ++ name ++ " = " ++ toString i ++ ",")) ++
    [.flush "\x7d;"]

/-- The accessors of an enum's constants, after a blank line. -/
def enumAccessors (names : Naming) (d : TypeDecl) : Block :=
  TypeDecl.headed .blank (d.enumConstants.map fun name =>
    .flush ("J2OBJC_ENUM_CONSTANT(" ++ names.fullName d.type ++ ", " ++ name ++ ")"))

/-- The header's text for an enum. The class initializer creates the
constants, so there always is one. -/
def enumDecl (c : Context) (d : TypeDecl) : Emission := do
  let hooks := memberHooks c false
  let opening ← interface c d enumSuperclass
  let support ← Block.sequence ((d.enumSupport c.naming).map hooks.method)
  let declarations ← Block.sequence (hooks.declarations d.body)
  let trailer ← trailer c d true
  pure (enumeration c.naming d ++ opening ++ support ++ declarations ++ ending ++
    [.blank, .flush ("FOUNDATION_EXPORT " ++ c.naming.fullName d.type ++ " *" ++
      d.enumValuesName c.naming ++ "[];")] ++
    enumAccessors c.naming d ++ trailer)

/-- The property of an annotation member. -/
def memberProperty (names : Naming) (m : AnnotationMember) : Line :=
  .flush ("@property (readonly) " ++
    declarator (names.specificTypeText m.type) m.propertyName ++ ";")

/-- The instance variable of an annotation member. -/
def memberVariable (names : Naming) (m : AnnotationMember) : Line :=
  .nested 1 (declarator (names.specificTypeText m.type) (names.fieldName m.propertyName) ++ ";")

/-- The constructor of an annotation type with members. -/
def memberConstructor (names : Naming) : List AnnotationMember → Block
  | [] => []
  | ms => [.blank, .flush (Signature.annotationConstructor names ms ++ ";")]

/-- The header's text for an annotation type: a protocol with its members
as properties, and a class that adopts it. -/
def annotationDecl (c : Context) (d : TypeDecl) : Emission := do
  let names := c.naming
  let fullName := names.fullName d.type
  let members := d.annotationMembers
  let trailer ← trailer c d false
  pure (.blank :: DocComment.block c.detect d.doc ++
    [.flush ("@protocol " ++ fullName ++ " < " ++ annotationProtocol ++ " >")] ++
    TypeDecl.headed .blank (members.map (memberProperty names)) ++ ending ++
    [.blank, .flush ("@interface " ++ fullName ++ " : " ++ rootClass ++ " < " ++ fullName ++
      " > \x7b")] ++
    TypeDecl.headed (.flush " @public") (members.map (memberVariable names)) ++
    [.flush "\x7d"] ++ memberConstructor names members ++ ending ++ trailer)

/-- What the header does with the types of a unit. -/
def typeHooks (c : Context) : TypeHooks Emission where
  classDecl := classDecl c
  enumDecl := enumDecl c
  annotationDecl := annotationDecl c

/-- The header's text for a type. -/
def ofType (c : Context) (d : TypeDecl) : Emission := (typeHooks c).visit d

/-- The name that guards a header against being read twice. -/
def guardName (fileName : String) : String := "_" ++ fileName ++ "_H_"

/-- The header of a unit. -/
def file (c : Context) (u : SourceUnit) (fileName : String) : Emission := do
  let types ← Block.sequence (u.types.map (ofType c))
  let guardName := guardName fileName
  pure (u.preamble ++
    [.flush ("#ifndef " ++ guardName), .flush ("#define " ++ guardName), .blank,
     .flush "#include \"J2ObjC_header.h\""] ++
    DeprecationRegion.around c.options types ++
    [.blank, .flush ("#endif // " ++ guardName)])

end ObjcDecl.Header
