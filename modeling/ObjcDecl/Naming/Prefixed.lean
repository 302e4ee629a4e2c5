import ObjcDecl.Naming.Basic

/-!
# Package-prefixed names

The naming table of generated code. A type is called by its package and
its simple name run together (`com.foo.Bar` becomes `ComFooBar`), a
selector names the types of its parameters, and a variable that would
clash with a reserved word gets a trailing underscore.
-/

namespace ObjcDecl.Naming.Prefixed

open Text

/-- Identifiers that cannot name a variable of the target. -/
def reservedWords : List String :=
  ["auto", "break", "case", "char", "const", "continue", "default", "do", "double", "else",
   "enum", "extern", "float", "for", "goto", "if", "inline", "int", "long", "register",
   "restrict", "return", "short", "signed", "sizeof", "static", "struct", "switch", "typedef",
   "union", "unsigned", "void", "volatile", "while", "id", "self", "super", "nil", "Nil",
   "YES", "NO", "BOOL", "SEL", "Class", "IMP", "NULL", "in", "out", "inout", "bycopy",
   "byref", "oneway"]

/-- Whether a name is reserved in the target. -/
def isReserved (name : String) : Bool := reservedWords.contains name

/-- The target name of a primitive type. -/
def primitiveText : String → String
  | "boolean" => "BOOL"
  | "byte" => "char"
  | "char" => "unichar"
  | "long" => "long long"
  | other => other

/-- The target name of a type. -/
def fullName (t : TypeRef) : String :=
  if t.name = "java.lang.String" then "NSString"
  else if t.name = "java.lang.Object" then "NSObject"
  else packagePrefix t.package ++ t.flatName

/-- The general target type. -/
def typeText : TypeRef → String
  | .named .primitive n => primitiveText n
  | .named .rootObject _ => "id"
  | .named .interfaceType _ => "id"
  | .named .classHandle _ => "IOSClass *"
  | .array _ (.named .primitive n) => "IOS" ++ capitalize n ++ "Array *"
  | .array _ _ => "IOSObjectArray *"
  | .named .classType n => fullName (.named .classType n) ++ " *"

/-- The most specific target type. -/
def specificTypeText : TypeRef → String
  | .named .interfaceType n => "id<" ++ fullName (.named .interfaceType n) ++ ">"
  | t => typeText t

/-- The word for a parameter type in a selector. -/
def keyword : TypeRef → String
  | .named .primitive n => capitalize n
  | .named .rootObject _ => "Id"
  | .named .classHandle _ => "IOSClass"
  | .named .interfaceType n => fullName (.named .interfaceType n)
  | .named .classType n => fullName (.named .classType n)
  | .array _ element => keyword element ++ "Array"

/-- The name of a parameter or local variable. -/
def variableName (name : String) : String := if isReserved name then name ++ "_" else name

/-- Methods whose selector the target's object model fixes. -/
def fixedSelector (name : String) (parameterCount : Nat) : Option String :=
  match name, parameterCount with
  | "hashCode", 0 => some "hash"
  | "toString", 0 => some "description"
  | "equals", 1 => some "isEqual:"
  | _, _ => none

/-- The part of a selector that stands for the parameters: `With` before
the first keyword, `with` before the others, a colon after each. -/
def keywords : List TypeRef → String
  | [] => ""
  | t :: ts => "With" ++ keyword t ++ ":" ++ String.join (ts.map fun u => "with" ++ keyword u ++ ":")

/-- The selector that follows from name, kind and parameters. -/
def derivedSelector (m : Method) : String :=
  (if m.isConstructor then "init" else variableName m.name) ++ keywords (m.parameters.map (·.type))

/-- The selector of a method: its own, else one fixed by the object
model, else the derived one. -/
def selector (m : Method) : String :=
  match m.selector with
  | some s => s
  | none =>
    if m.isConstructor then derivedSelector m
    else (fixedSelector m.name m.parameters.length).getD (derivedSelector m)

end Prefixed

/-- The package-prefixed naming table. -/
def prefixed : Naming where
  typeText := Prefixed.typeText
  specificTypeText := Prefixed.specificTypeText
  fullName := Prefixed.fullName
  selector := Prefixed.selector
  variableName := Prefixed.variableName
  fieldName := (· ++ "_")

end ObjcDecl.Naming
