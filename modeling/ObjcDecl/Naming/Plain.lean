import ObjcDecl.Naming.Basic

/-!
# Plain names

A small naming table without packages, reserved words or type keywords:
a type is called by its simple name, and a selector names its parameters.
-/

namespace ObjcDecl.Naming.Plain

/-- The general target type. -/
def typeText : TypeRef → String
  | .named .primitive n => n
  | .named .rootObject _ => "id"
  | .named .classHandle _ => "Class"
  | .named .interfaceType _ => "id"
  | .array _ _ => "IOSObjectArray *"
  | .named .classType n =>
    if n = "java.lang.String" then "NSString *"
    else (TypeRef.named .classType n).flatName ++ " *"

/-- The colons of a selector, each but the first after the name of its
parameter. -/
def keywords : List Parameter → String
  | [] => ""
  | _ :: ps => ":" ++ String.join (ps.map fun p => p.name ++ ":")

/-- The fixed selector, or the name followed by the parameters. -/
def selector (m : Method) : String :=
  match m.selector with
  | some s => s
  | none => (if m.isConstructor then "init" else m.name) ++ keywords m.parameters

end Plain

/-- The plain naming table. -/
def plain : Naming where
  typeText := Plain.typeText
  specificTypeText := Plain.typeText
  fullName := TypeRef.flatName
  selector := Plain.selector
  variableName := id
  fieldName := (· ++ "_")

end ObjcDecl.Naming
