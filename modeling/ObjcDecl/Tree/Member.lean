import ObjcDecl.Fault
import ObjcDecl.Tree.Doc
import ObjcDecl.Tree.Modifier
import ObjcDecl.Tree.TypeRef

/-!
# Members of a type

The declarations in a type's body, and the functions that build them step
by step.
-/

namespace ObjcDecl

/-- A parameter of a method or function. -/
structure Parameter where
  name : String
  type : TypeRef
deriving DecidableEq, Repr

/-- A method or constructor. -/
structure Method where
  name : String
  /-- The type that declares the method. -/
  owner : TypeRef
  modifiers : Modifiers := {}
  isConstructor : Bool := false
  /-- Of no meaning for a constructor. -/
  returnType : TypeRef := .void
  parameters : List Parameter := []
  annotations : List Annotation := []
  doc : Option Doc := none
  /-- Takes the place of the selector derived from name and parameters. -/
  selector : Option String := none
  /-- Statements in the target language, one a line. -/
  body : List String := []
deriving Repr

/-- What is known of one variable of a field statement. -/
structure Binding where
  isStatic : Bool := false
  /-- The variable does not own what it refers to. -/
  isWeak : Bool := false
  /-- The variable is a primitive constant and has no storage. -/
  isPrimitiveConstant : Bool := false
deriving DecidableEq, Repr

/-- A variable declared by a field statement. -/
structure Variable where
  name : String
  binding : Binding := {}
deriving DecidableEq, Repr

/-- A field statement: variables that share one type. -/
structure Field where
  modifiers : Modifiers := {}
  type : TypeRef
  vars : List Variable
  doc : Option Doc := none
deriving Repr

/-- A free function. -/
structure Function where
  name : String
  returnType : TypeRef
  parameters : List Parameter := []
  modifiers : Modifiers := {}
  /-- Statements in the target language, one a line. -/
  body : List String := []
deriving DecidableEq, Repr

/-- Target code to be copied as it stands. -/
structure NativeBlock where
  headerCode : Option String := none
  implementationCode : Option String := none
deriving DecidableEq, Repr

/-- A member of an annotation type. -/
structure AnnotationMember where
  name : String
  type : TypeRef
deriving DecidableEq, Repr

/-- A declaration in the body of a type. -/
inductive Member where
  | method (m : Method)
  | field (f : Field)
  | function (f : Function)
  | native (n : NativeBlock)
  | initializer (isStatic : Bool)
  | enumConstant (name : String)
  | annotationMember (m : AnnotationMember)
deriving Repr

/-- The name of a member's kind. -/
def Member.kindName : Member → String
  | .method _ => "method"
  | .field _ => "field"
  | .function _ => "function"
  | .native _ => "native"
  | .initializer _ => "initializer"
  | .enumConstant _ => "enum_constant"
  | .annotationMember _ => "annotation_member"

namespace Method

/-- A constructor of a type. -/
def constructorOf (owner : TypeRef) : Method :=
  { name := "<init>", owner := owner, isConstructor := true }

/-- The method with another return type. -/
def returns (m : Method) (t : TypeRef) : Method := { m with returnType := t }

/-- The method with one more parameter. -/
def param (m : Method) (name : String) (t : TypeRef) : Method :=
  { m with parameters := m.parameters ++ [⟨name, t⟩] }

/-- The method with one more modifier. -/
def modifier (m : Method) (x : Modifier) : Method :=
  { m with modifiers := m.modifiers.insert x }

/-- The method with one more annotation. -/
def annotate (m : Method) (typeName : String) : Method :=
  { m with annotations := m.annotations ++ [⟨typeName⟩] }

/-- The method with another comment. -/
def withDoc (m : Method) (d : Doc) : Method := { m with doc := some d }

/-- The method with another fixed selector. -/
def withSelector (m : Method) (s : String) : Method := { m with selector := some s }

/-- The method with one more line in its body. -/
def bodyLine (m : Method) (line : String) : Method := { m with body := m.body ++ [line] }

/-- Whether the method belongs to the class and not to an instance. -/
def isStatic (m : Method) : Bool := m.modifiers.isStatic

end Method

namespace Field

/-- A field statement without modifiers or comment. It needs a variable. -/
def ofVariables (t : TypeRef) : List Variable → Except Fault Field
  | [] => .error .emptyField
  | vs => .ok { type := t, vars := vs }

/-- The field statement with one more modifier. `static` is a fact about
each of its variables too. -/
def modifier (f : Field) (x : Modifier) : Field :=
  { f with
    modifiers := f.modifiers.insert x
    vars :=
      if x = .staticMember then
        f.vars.map fun v => { v with binding := { v.binding with isStatic := true } }
      else f.vars }

/-- The field statement with another comment. -/
def withDoc (f : Field) (d : Doc) : Field := { f with doc := some d }

/-- Whether the statement declares static variables. -/
def isStatic (f : Field) : Bool := f.modifiers.isStatic

end Field

namespace Function

/-- The function with one more parameter. -/
def param (f : Function) (name : String) (t : TypeRef) : Function :=
  { f with parameters := f.parameters ++ [⟨name, t⟩] }

/-- The function with one more modifier. -/
def modifier (f : Function) (x : Modifier) : Function :=
  { f with modifiers := f.modifiers.insert x }

/-- The function with one more line in its body. -/
def bodyLine (f : Function) (line : String) : Function := { f with body := f.body ++ [line] }

/-- Whether the function is visible in the implementation file alone. -/
def isPrivate (f : Function) : Bool := f.modifiers.isPrivate

end Function

end ObjcDecl
