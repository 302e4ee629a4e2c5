import ObjcDecl.Emit.Implementation
import ObjcDecl.Visit.Printer

/-!
# Printing an implementation

The visitor of an implementation goes through a body more than once, with
the same hooks, and what the hooks do depends on the stage that it
remembers: declarations before the definitions, or the definitions
themselves. A stage lasts until the next one is set, also beyond the end
of a type.
-/

namespace ObjcDecl.Implementation

/-- What the visitor prints of the members it comes to. -/
inductive Stage where
  /-- Hidden methods and the prototypes of private functions. -/
  | extension
  /-- The definitions of methods and functions, and native code. -/
  | definitions
deriving DecidableEq, Repr

/-- The visitor of an implementation, as far as it remembers anything. -/
structure Visitor where
  stage : Stage := .extension
  isInner : Bool := false
deriving DecidableEq, Repr

namespace Visitor

open Printer

def start (s : Stage) : Printer Visitor Unit := remember fun m => { m with stage := s }

/-- A declaration with a body in braces, after a blank line. -/
def braced (declaration : String) (body : List String) : Printer Visitor Unit := do
  out .newline
  out (.print declaration)
  out (.println " \x7b")
  out .indent
  lines body
  out .unindent
  out (.println "\x7d")

def memberHooks : MemberHooks (Printer Visitor Unit) where
  normalMethod m := do
    let c ← context
    let s ← remembered
    match s.stage with
    | .extension => if m.modifiers.isHidden c.options then normalMethod m else pure ()
    | .definitions =>
      let signature ← Signature.normalMethod c.naming m
      braced signature (methodBody m)
  constructor m := do
    let c ← context
    let s ← remembered
    match s.stage with
    | .extension => if m.modifiers.isHidden c.options then constructor m s.isInner else pure ()
    | .definitions =>
      let signature ← Signature.constructor c.naming m s.isInner
      braced signature (constructorBody m)
  function f := do
    let c ← context
    let s ← remembered
    match s.stage with
    | .extension =>
      if f.isPrivate then
        out .newline
        out (.println ("__attribute__((unused)) static " ++ Signature.function c.naming f ++ ";"))
      else pure ()
    | .definitions => braced (functionSignature c.naming f) f.body
  native n := do
    let s ← remembered
    if s.stage = .definitions then native n.implementationCode else pure ()

/-- The class extension. Without hidden members there is none, and the stage
stays what it was. -/
def classExtension (d : TypeDecl) : Printer Visitor Unit := do
  let c ← context
  if d.hasHiddenMembers c.options then
    start .extension
    out .newline
    out (.print (extensionLine c.naming d))
    if d.hasInstanceVariables .privateOnly c.options then
      out (.println " \x7b")
      instanceVariables d .privateOnly
      out (.println "\x7d")
    else out .newline
    all (memberHooks.declarations d.body)
    endDeclaration
    fieldSetters d .privateOnly

/-- The prototypes of private functions. -/
def prototypes (d : TypeDecl) : Printer Visitor Unit := do
  start .extension
  all (memberHooks.functions d.body)

/-- The definition of a static variable. A blank line comes before the
first one. -/
def storedVariable (d : TypeDecl) (first : Bool) : Field × Variable → Printer Visitor Bool
  | (f, v) => do
    let c ← context
    if first then out .newline
    out (.println (d.storageDeclarator c.naming f v ++ ";"))
    pure false

def staticStorage (d : TypeDecl) : Printer Visitor Unit := do
  let _ ← d.storedVariables.foldlM (storedVariable d) true

def classInitializer (d : TypeDecl) : Printer Visitor Unit := do
  let c ← context
  let fullName := c.naming.fullName d.type
  out .newline
  out (.println "+ (void)initialize \x7b")
  out .indent
  out (.line ("if (self == [" ++ fullName ++ " class]) \x7b"))
  out .indent
  lines d.classInit
  out (.line ("J2OBJC_SET_INITIALIZED(" ++ fullName ++ ")"))
  out .unindent
  out (.line "\x7d")
  out .unindent
  out (.println "\x7d")

/-- The first line of a type's definitions, after a blank line. -/
def opening (d : TypeDecl) : Printer Visitor Unit := do
  let c ← context
  out .newline
  out (.println ("@implementation " ++ c.naming.fullName d.type))

def definitions (d : TypeDecl) : Printer Visitor Unit := do
  start .definitions
  all (memberHooks.declarations d.body)

/-- The type literal, after a blank line. -/
def typeLiteral (d : TypeDecl) (macroName : String) : Printer Visitor Unit := do
  let c ← context
  out .newline
  out (.println (macroName ++ "(" ++ c.naming.fullName d.type ++ ")"))

def classDecl (d : TypeDecl) : Printer Visitor Unit := do
  remember fun s => { s with isInner := d.isInner }
  classExtension d
  prototypes d
  staticStorage d
  opening d
  definitions d
  if d.hasInitialize then classInitializer d
  endDeclaration
  -- still in the stage of the definitions
  all (memberHooks.functions d.body)
  typeLiteral d "J2OBJC_CLASS_TYPE_LITERAL_SOURCE"

def enumDecl (d : TypeDecl) : Printer Visitor Unit := do
  remember fun s => { s with isInner := false }
  let c ← context
  classExtension d
  prototypes d
  out .newline
  out (.println (c.naming.fullName d.type ++ " *" ++ d.enumValuesName c.naming ++ "[" ++
    d.enumSize ++ "];"))
  staticStorage d
  opening d
  -- `values` and `valueOf` are in no body, so the stage has to be set before the body is visited
  start .definitions
  all ((d.enumSupport c.naming).map memberHooks.method)
  definitions d
  classInitializer d
  endDeclaration
  all (memberHooks.functions d.body)
  typeLiteral d "J2OBJC_CLASS_TYPE_LITERAL_SOURCE"

def memberSynthesis (names : Naming) (m : AnnotationMember) : Printer Visitor Unit :=
  out (.println ("@synthesize " ++ m.propertyName ++ " = " ++ names.fieldName m.propertyName ++
    ";"))

/-- The implementation of an annotation type. It says nothing of a stage. -/
def annotationDecl (d : TypeDecl) : Printer Visitor Unit := do
  remember fun s => { s with isInner := false }
  let c ← context
  let members := d.annotationMembers
  opening d
  if !members.isEmpty then out .newline
  members.forM (memberSynthesis c.naming)
  if !members.isEmpty then
    braced (Signature.annotationConstructor c.naming members)
      (memberConstructorBody c.naming members)
  braced "- (IOSClass *)annotationType" ["return " ++ c.naming.fullName d.type ++ "_class_();"]
  endDeclaration
  typeLiteral d "J2OBJC_INTERFACE_TYPE_LITERAL_SOURCE"

def typeHooks : TypeHooks (Printer Visitor Unit) where
  classDecl := classDecl
  enumDecl := enumDecl
  annotationDecl := annotationDecl

def type (d : TypeDecl) : Printer Visitor Unit := typeHooks.visit d

def unit (u : SourceUnit) (fileName : String) : Printer Visitor Unit := do
  preamble u
  out (.println ("#include \"" ++ fileName ++ ".h\""))
  out (.println "#include \"J2ObjC_source.h\"")
  ignoringDeprecations (all (u.types.map type))

end Visitor

end ObjcDecl.Implementation
