import ObjcDecl.Emit.Header
import ObjcDecl.Visit.Printer

/-!
# Printing a header

The visitor of a header remembers whether the type that it is in is an
inner one, as the constructors of that type have to know. It comes to the
types one after the other and prints all of them on one writer.
-/

namespace ObjcDecl.Header

/-- The visitor of a header, as far as it remembers anything. -/
structure Visitor where
  isInner : Bool := false
deriving DecidableEq, Repr

namespace Visitor

open Printer

def memberHooks : MemberHooks (Printer Visitor Unit) where
  normalMethod m := do
    let c ← context
    if m.modifiers.isHidden c.options then pure () else normalMethod m
  constructor m := do
    let c ← context
    let s ← remembered
    if m.modifiers.isHidden c.options then pure () else constructor m s.isInner
  function f := do
    let c ← context
    if f.isPrivate then pure ()
    else
      out .newline
      out (.println ("FOUNDATION_EXPORT " ++ Signature.function c.naming f ++ ";"))
  native n := native n.headerCode

/-- The opening of a type's interface. -/
def interface (d : TypeDecl) (superclass : String) : Printer Visitor Unit := do
  let c ← context
  out .newline
  doc d.doc
  out (.print ("@interface " ++ c.naming.fullName d.type ++ " : " ++ superclass))
  out (.print (protocols c.naming d.interfaces))
  if d.hasInstanceVariables .nonPrivate c.options then
    out (.println " \x7b")
    instanceVariables d .nonPrivate
    out (.println "\x7d")
  else out .newline

/-- The export and the accessors of a static variable. A blank line comes
before the first one. -/
def staticVariable (d : TypeDecl) (first : Bool) : Field × Variable → Printer Visitor Bool
  | (f, v) => do
    let c ← context
    if first then out .newline
    if !v.binding.isPrimitiveConstant then
      out (.println ("FOUNDATION_EXPORT " ++ d.storageDeclarator c.naming f v ++ ";"))
    out (.println (TypeDecl.accessorMacro f v ++ "(" ++ c.naming.fullName d.type ++ ", " ++
      c.naming.variableName v.name ++ ", " ++ c.naming.typeText f.type ++ ")"))
    pure false

/-- What follows a type's interface. -/
def trailer (d : TypeDecl) (hasInitialize : Bool) : Printer Visitor Unit := do
  let c ← context
  let fullName := c.naming.fullName d.type
  let initMacro := if hasInitialize then "J2OBJC_STATIC_INIT" else "J2OBJC_EMPTY_STATIC_INIT"
  out .newline
  out (.println (initMacro ++ "(" ++ fullName ++ ")"))
  fieldSetters d .nonPrivate
  let _ ← d.staticVariables.foldlM (staticVariable d) true
  all (memberHooks.functions d.body)
  out .newline
  out (.println ("J2OBJC_TYPE_LITERAL_HEADER(" ++ fullName ++ ")"))

def classDecl (d : TypeDecl) : Printer Visitor Unit := do
  -- before any member, as their hooks ask for it
  remember fun s => { s with isInner := d.isInner }
  let c ← context
  interface d (superclassName c.naming d)
  all (memberHooks.declarations d.body)
  endDeclaration
  trailer d d.hasInitialize

def enumerator (enumName : String) : String × Nat → Printer Visitor Unit
  | (name, i) => out (.line (enumName ++ "_" ++ name ++ " = " ++ toString i ++ ","))

/-- The enumeration of an enum's constants, numbered from zero. -/
def enumeration (d : TypeDecl) : Printer Visitor Unit := do
  let c ← context
  let enumName := c.naming.fullName d.type ++ "_Enum"
  out .newline
  out (.println ("typedef NS_ENUM(NSUInteger, " ++ enumName ++ ") \x7b"))
  out .indent
  d.enumConstants.zipIdx.forM (enumerator enumName)
  out .unindent
  out (.println "\x7d;")

def constantAccessor (fullName name : String) : Printer Visitor Unit :=
  out (.println ("J2OBJC_ENUM_CONSTANT(" ++ fullName ++ ", " ++ name ++ ")"))

/-- The array of an enum's constants and the accessors of the constants. -/
def enumValues (d : TypeDecl) : Printer Visitor Unit := do
  let c ← context
  let fullName := c.naming.fullName d.type
  out .newline
  out (.println ("FOUNDATION_EXPORT " ++ fullName ++ " *" ++ d.enumValuesName c.naming ++ "[];"))
  if !d.enumConstants.isEmpty then out .newline
  d.enumConstants.forM (constantAccessor fullName)

def enumDecl (d : TypeDecl) : Printer Visitor Unit := do
  remember fun s => { s with isInner := false }
  let c ← context
  enumeration d
  interface d enumSuperclass
  all ((d.enumSupport c.naming).map memberHooks.method)
  all (memberHooks.declarations d.body)
  endDeclaration
  enumValues d
  trailer d true

def memberProperty (names : Naming) (m : AnnotationMember) : Printer Visitor Unit :=
  out (.println ("@property (readonly) " ++
    declarator (names.specificTypeText m.type) m.propertyName ++ ";"))

def memberVariable (names : Naming) (m : AnnotationMember) : Printer Visitor Unit :=
  out (.line (declarator (names.specificTypeText m.type) (names.fieldName m.propertyName) ++ ";"))

/-- The protocol of an annotation type, with its members as properties. -/
def memberProtocol (d : TypeDecl) : Printer Visitor Unit := do
  let c ← context
  out .newline
  doc d.doc
  out (.println ("@protocol " ++ c.naming.fullName d.type ++ " < " ++ annotationProtocol ++ " >"))
  if !d.annotationMembers.isEmpty then out .newline
  d.annotationMembers.forM (memberProperty c.naming)
  endDeclaration

/-- The interface of an annotation type's class. -/
def memberInterface (d : TypeDecl) : Printer Visitor Unit := do
  let c ← context
  let fullName := c.naming.fullName d.type
  out .newline
  out (.println ("@interface " ++ fullName ++ " : " ++ rootClass ++ " < " ++ fullName ++ " > \x7b"))
  if !d.annotationMembers.isEmpty then
    out .indent
    out (.println " @public")
    d.annotationMembers.forM (memberVariable c.naming)
    out .unindent
  out (.println "\x7d")
  if !d.annotationMembers.isEmpty then
    out .newline
    out (.println (Signature.annotationConstructor c.naming d.annotationMembers ++ ";"))
  endDeclaration

def annotationDecl (d : TypeDecl) : Printer Visitor Unit := do
  remember fun s => { s with isInner := false }
  memberProtocol d
  memberInterface d
  trailer d false

def typeHooks : TypeHooks (Printer Visitor Unit) where
  classDecl := classDecl
  enumDecl := enumDecl
  annotationDecl := annotationDecl

def type (d : TypeDecl) : Printer Visitor Unit := typeHooks.visit d

def unit (u : SourceUnit) (fileName : String) : Printer Visitor Unit := do
  preamble u
  out (.println ("#ifndef " ++ guardName fileName))
  out (.println ("#define " ++ guardName fileName))
  out .newline
  out (.println "#include \"J2ObjC_header.h\"")
  ignoringDeprecations (all (u.types.map type))
  out .newline
  out (.println ("#endif // " ++ guardName fileName))

end Visitor

end ObjcDecl.Header
