import ObjcDecl.Text.Split

/-!
# Resolved types

A type is known by its qualified source name and by what it is, as far as
declarations care. Nested types put `$` between the outer and the inner
simple name (`com.foo.Outer$Inner`).
-/

namespace ObjcDecl

open Text

/-- What a type other than an array is. -/
inductive NamedKind where
  /-- A value type such as `int`, `boolean` or `void`. -/
  | primitive
  | classType
  | interfaceType
  /-- The root of the class hierarchy. -/
  | rootObject
  /-- The type of classes at run time. -/
  | classHandle
deriving DecidableEq, Repr

/-- A resolved type: a named one, or an array with its element type. -/
inductive TypeRef where
  | named (kind : NamedKind) (name : String)
  | array (name : String) (element : TypeRef)
deriving DecidableEq, Repr

namespace TypeRef

/-- The qualified source name. -/
def name : TypeRef → String
  | .named _ n => n
  | .array n _ => n

/-- A primitive type of the given name. -/
def primitive (name : String) : TypeRef := .named .primitive name

/-- The type of methods that return nothing. -/
def void : TypeRef := primitive "void"

/-- A class of the given name. -/
def ofClass (name : String) : TypeRef := .named .classType name

/-- The class of texts. -/
def string : TypeRef := ofClass "java.lang.String"

/-- The array type over an element type, named after it. -/
def arrayOf (element : TypeRef) : TypeRef := .array (element.name ++ "[]") element

/-- Whether the type is a primitive one. -/
def isPrimitive : TypeRef → Bool
  | .named .primitive _ => true
  | _ => false

/-- Whether the type is that of methods that return nothing. -/
def isVoid (t : TypeRef) : Bool := t.isPrimitive && t.name == "void"

/-- The name after the last `.`, nested separators kept. -/
def simpleName (t : TypeRef) : String := String.ofList (afterLast '.' t.name.toList)

/-- The name before the last `.`, empty in the default package. -/
def package (t : TypeRef) : String := String.ofList (beforeLast '.' t.name.toList)

end TypeRef

end ObjcDecl
