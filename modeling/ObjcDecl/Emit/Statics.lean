import ObjcDecl.Emit.Fields
import ObjcDecl.Emit.Selector

/-!
# Static variables

A static variable is a global of the target, named after its type. The
header exports it and gives it accessors, the implementation defines it.
A primitive constant has accessors but no storage.
-/

namespace ObjcDecl.TypeDecl

/-- The storage of a static variable. -/
def storageName (names : Naming) (d : TypeDecl) (v : Variable) : String :=
  names.fullName d.type ++ "_" ++ names.variableName v.name

/-- The type and the storage of a static variable. -/
def storageDeclarator (names : Naming) (d : TypeDecl) (f : Field) (v : Variable) : String :=
  declarator (names.typeText f.type) (d.storageName names v)

/-- The export of a static variable, if it has storage. -/
def storageExport (names : Naming) (d : TypeDecl) (f : Field) (v : Variable) : Block :=
  if v.binding.isPrimitiveConstant then []
  else [.flush ("FOUNDATION_EXPORT " ++ d.storageDeclarator names f v ++ ";")]

/-- The macro that declares the accessors of a static variable. -/
def accessorMacro (f : Field) (v : Variable) : String :=
  if v.binding.isPrimitiveConstant then "J2OBJC_STATIC_FIELD_CONSTANT"
  else if f.type.isPrimitive then "J2OBJC_STATIC_FIELD_PRIMITIVE"
  else "J2OBJC_STATIC_FIELD_OBJ"

/-- The accessors of a static variable. -/
def accessor (names : Naming) (d : TypeDecl) (f : Field) (v : Variable) : Line :=
  .flush (accessorMacro f v ++ "(" ++ names.fullName d.type ++ ", " ++
    names.variableName v.name ++ ", " ++ names.typeText f.type ++ ")")

/-- What the header says of the static variables, after a blank line. -/
def staticAccessors (names : Naming) (d : TypeDecl) : Block :=
  headed .blank (d.staticVariables.flatMap fun (f, v) =>
    d.storageExport names f v ++ [d.accessor names f v])

/-- The definitions of the static variables, after a blank line. -/
def staticStorage (names : Naming) (d : TypeDecl) : Block :=
  headed .blank (d.storedVariables.map fun (f, v) =>
    .flush (d.storageDeclarator names f v ++ ";"))

end ObjcDecl.TypeDecl
