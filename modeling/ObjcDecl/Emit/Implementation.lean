import ObjcDecl.Emit.Header

/-!
# The implementation

The implementation declares the members that the header leaves to it, in
a class extension, and defines all members of a type. A body is visited
with two sets of hooks: `extensionHooks` for what comes before the
definitions, `definitionHooks` for the definitions themselves.
-/

namespace ObjcDecl.Implementation

/-- A declaration with a body in braces, after a blank line. -/
def braced (declaration : String) (body : List String) : Block :=
  [.blank, .flush (declaration ++ " \x7b")] ++ body.map (.nested 1 ·) ++ [.flush "\x7d"]

/-- What is done with members before the definitions: hidden methods are
declared, and private functions have prototypes. -/
def extensionHooks (c : Context) (isInner : Bool) : MemberHooks Emission where
  normalMethod m := if m.modifiers.isHidden c.options then m.normalDeclaration c else .ok []
  constructor m :=
    if m.modifiers.isHidden c.options then m.constructorDeclaration c isInner else .ok []
  function f :=
    .ok (if f.isPrivate then
      [.blank, .flush ("__attribute__((unused)) static " ++
        Signature.function c.naming f ++ ";")]
      else [])
  native _ := .ok []

/-- The body of a normal method. An abstract one reports the call. -/
def methodBody (m : Method) : List String :=
  if m.modifiers.contains .abstract then
    ["// can't call an abstract method", "[self doesNotRecognizeSelector:_cmd];"] ++
      if m.returnType.isVoid then [] else ["return 0;"]
  else m.body

/-- The body of a constructor. -/
def constructorBody (m : Method) : List String :=
  if m.body.isEmpty then ["return [super init];"] else m.body

/-- The signature of a function's definition. -/
def functionSignature (names : Naming) (f : Function) : String :=
  (if f.isPrivate then "static " else "") ++ Signature.function names f

/-- What is done with members to define them. -/
def definitionHooks (c : Context) (isInner : Bool) : MemberHooks Emission where
  normalMethod m := do
    let signature ← Signature.normalMethod c.naming m
    pure (braced signature (methodBody m))
  constructor m := do
    let signature ← Signature.constructor c.naming m isInner
    pure (braced signature (constructorBody m))
  function f := .ok (braced (functionSignature c.naming f) f.body)
  native n := .ok (Header.nativeCode n.implementationCode)

/-- The first line of a class extension. -/
def extensionLine (names : Naming) (d : TypeDecl) : String :=
  "@interface " ++ names.fullName d.type ++ " ()"

/-- The class extension with the hidden members and the setters of hidden
fields; nothing where no member is hidden. -/
def classExtension (c : Context) (d : TypeDecl) (isInner : Bool) : Emission :=
  if d.hasHiddenMembers c.options then do
    let opening := extensionLine c.naming d
    let ivars ← d.instanceVariables c .privateOnly
    let declarations ← Block.sequence ((extensionHooks c isInner).declarations d.body)
    pure (.blank ::
      (if d.hasInstanceVariables .privateOnly c.options then
        .flush (opening ++ " \x7b") :: ivars ++ [.flush "\x7d"]
      else [.flush opening]) ++
      declarations ++ Header.ending ++ d.fieldSetters c .privateOnly)
  else .ok []

/-- The prototypes of private functions. -/
def prototypes (c : Context) (d : TypeDecl) : Emission :=
  Block.sequence ((extensionHooks c false).functions d.body)

/-- The definitions of all functions. -/
def functions (c : Context) (d : TypeDecl) : Emission :=
  Block.sequence ((definitionHooks c false).functions d.body)

/-- The class initializer. -/
def classInitializer (names : Naming) (d : TypeDecl) : Block :=
  let fullName := names.fullName d.type
  [.blank, .flush "+ (void)initialize \x7b",
   .nested 1 ("if (self == [" ++ fullName ++ " class]) \x7b")] ++
    d.classInit.map (.nested 2 ·) ++
    [.nested 2 ("J2OBJC_SET_INITIALIZED(" ++ fullName ++ ")"), .nested 1 "\x7d", .flush "\x7d"]

/-- The first line of a type's definitions, after a blank line. -/
def opening (names : Naming) (d : TypeDecl) : Block :=
  [.blank, .flush ("@implementation " ++ names.fullName d.type)]

/-- The type literal, after a blank line. -/
def typeLiteral (names : Naming) (d : TypeDecl) (macroName : String) : Block :=
  [.blank, .flush (macroName ++ "(" ++ names.fullName d.type ++ ")")]

/-- The type literal of a class or enum. -/
def classLiteral (names : Naming) (d : TypeDecl) : Block :=
  typeLiteral names d "J2OBJC_CLASS_TYPE_LITERAL_SOURCE"

/-- The implementation's text for a class. -/
def classDecl (c : Context) (d : TypeDecl) : Emission := do
  let names := c.naming
  let classExtension ← classExtension c d d.isInner
  let prototypes ← prototypes c d
  let definitions ← Block.sequence ((definitionHooks c d.isInner).declarations d.body)
  let functions ← functions c d
  pure (classExtension ++ prototypes ++ d.staticStorage names ++ opening names d ++
    definitions ++ (if d.hasInitialize then classInitializer names d else []) ++ Header.ending ++
    functions ++ classLiteral names d)

/-- The implementation's text for an enum. -/
def enumDecl (c : Context) (d : TypeDecl) : Emission := do
  let names := c.naming
  let hooks := definitionHooks c false
  let classExtension ← classExtension c d false
  let prototypes ← prototypes c d
  let support ← Block.sequence ((d.enumSupport names).map hooks.method)
  let definitions ← Block.sequence (hooks.declarations d.body)
  let functions ← functions c d
  pure (classExtension ++ prototypes ++
    [.blank, .flush (names.fullName d.type ++ " *" ++ d.enumValuesName names ++ "[" ++
      d.enumSize ++ "];")] ++
    d.staticStorage names ++ opening names d ++ support ++ definitions ++
    classInitializer names d ++ Header.ending ++ functions ++ classLiteral names d)

/-- The synthesis of an annotation member's property. -/
def memberSynthesis (names : Naming) (m : AnnotationMember) : Line :=
  .flush ("@synthesize " ++ m.propertyName ++ " = " ++ names.fieldName m.propertyName ++ ";")

/-- The assignment of an annotation member in the constructor. -/
def memberAssignment (names : Naming) (m : AnnotationMember) : String :=
  "  " ++ names.fieldName m.propertyName ++ " = " ++ Signature.memberParameter m ++ ";"

/-- The body of an annotation type's constructor. -/
def memberConstructorBody (names : Naming) (ms : List AnnotationMember) : List String :=
  ["if (self = [super init]) \x7b"] ++
    (AnnotationMember.sorted ms).map (memberAssignment names) ++ ["\x7d", "return self;"]

/-- The definition of an annotation type's constructor. -/
def memberConstructor (names : Naming) : List AnnotationMember → Block
  | [] => []
  | ms => braced (Signature.annotationConstructor names ms) (memberConstructorBody names ms)

/-- The implementation's text for an annotation type. -/
def annotationDecl (c : Context) (d : TypeDecl) : Emission :=
  let names := c.naming
  let members := d.annotationMembers
  .ok (opening names d ++
    TypeDecl.headed .blank (members.map (memberSynthesis names)) ++
    memberConstructor names members ++
    braced "- (IOSClass *)annotationType" ["return " ++ names.fullName d.type ++ "_class_();"] ++
    Header.ending ++ typeLiteral names d "J2OBJC_INTERFACE_TYPE_LITERAL_SOURCE")

/-- What the implementation does with the types of a unit. -/
def typeHooks (c : Context) : TypeHooks Emission where
  classDecl := classDecl c
  enumDecl := enumDecl c
  annotationDecl := annotationDecl c

/-- The implementation's text for a type. -/
def ofType (c : Context) (d : TypeDecl) : Emission := (typeHooks c).visit d

/-- The implementation of a unit. -/
def file (c : Context) (u : SourceUnit) (fileName : String) : Emission := do
  let types ← Block.sequence (u.types.map (ofType c))
  pure (u.preamble ++
    [.flush ("#include \"" ++ fileName ++ ".h\""), .flush "#include \"J2ObjC_source.h\""] ++
    DeprecationRegion.around c.options types)

end ObjcDecl.Implementation
