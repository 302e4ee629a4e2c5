import ObjcDecl.Tree.Member

/-!
# Type declarations and source units

A source unit is what one run of the generator reads: the types of one
source file, each with its body. The queries below select the members of
a body by kind and keep their order.
-/

namespace ObjcDecl

open Text

/-- The kinds of declared types. -/
inductive DeclKind where
  | classDecl
  | enumDecl
  | annotationDecl
deriving DecidableEq, Repr

/-- A type declaration and its body. -/
structure TypeDecl where
  kind : DeclKind
  /-- The declared type itself. -/
  type : TypeRef
  superclass : Option TypeRef := none
  interfaces : List TypeRef := []
  modifiers : Modifiers := {}
  doc : Option Doc := none
  body : List Member := []
  /-- Statements to run when the class is first used. -/
  classInit : List String := []
deriving Repr

namespace TypeDecl

/-- A class without members. -/
def ofClass (name : String) : TypeDecl := { kind := .classDecl, type := .ofClass name }

/-- The declaration with another superclass. -/
def withSuperclass (d : TypeDecl) (t : TypeRef) : TypeDecl := { d with superclass := some t }

/-- The declaration with one more interface. -/
def withInterface (d : TypeDecl) (t : TypeRef) : TypeDecl :=
  { d with interfaces := d.interfaces ++ [t] }

/-- The declaration with another comment. -/
def withDoc (d : TypeDecl) (x : Doc) : TypeDecl := { d with doc := some x }

/-- The declaration with one more member. -/
def member (d : TypeDecl) (m : Member) : TypeDecl := { d with body := d.body ++ [m] }

/-- The declaration with one more statement to run at first use. -/
def classInitLine (d : TypeDecl) (line : String) : TypeDecl :=
  { d with classInit := d.classInit ++ [line] }

/-- The field statements. -/
def fields (d : TypeDecl) : List Field :=
  d.body.filterMap fun
    | .field f => some f
    | _ => none

/-- Every declared variable, with its statement. -/
def vars (d : TypeDecl) : List (Field × Variable) :=
  d.fields.flatMap fun f => f.vars.map fun v => (f, v)

/-- The static variables: each of them gets accessors. -/
def staticVariables (d : TypeDecl) : List (Field × Variable) :=
  d.vars.filter fun (_, v) => v.binding.isStatic

/-- The static variables that have storage: all but primitive constants. -/
def storedVariables (d : TypeDecl) : List (Field × Variable) :=
  d.vars.filter fun (_, v) => v.binding.isStatic && !v.binding.isPrimitiveConstant

/-- The names of the enum constants. -/
def enumConstants (d : TypeDecl) : List String :=
  d.body.filterMap fun
    | .enumConstant n => some n
    | _ => none

/-- The members of an annotation type. -/
def annotationMembers (d : TypeDecl) : List AnnotationMember :=
  d.body.filterMap fun
    | .annotationMember m => some m
    | _ => none

/-- Whether the type is nested and its instances hold one of the outer
type. -/
def isInner (d : TypeDecl) : Bool :=
  d.type.simpleName.toList.contains '$' && !d.modifiers.isStatic

/-- Whether statements have to run when the class is first used. -/
def hasInitialize (d : TypeDecl) : Bool := !d.classInit.isEmpty

end TypeDecl

/-- The types of one source file. -/
structure SourceUnit where
  /-- The path of the source file. -/
  sourcePath : String
  types : List TypeDecl
deriving Repr

/-- The source file's name up to its first `.`. -/
def SourceUnit.mainTypeName (u : SourceUnit) : String :=
  String.ofList ((afterLast '/' u.sourcePath.toList).takeWhile (· != '.'))

end ObjcDecl
