import ObjcDecl.Text.Capital
import ObjcDecl.Tree.Member

/-!
# Naming tables

A naming table says how types, methods and variables of the source are
called in the target. Generated text depends on names through such a
table and in no other way. The names of annotation members are fixed:
a property is called what the member is called, and the constructor takes
the members in the order of their names.
-/

namespace ObjcDecl

/-- The target names of source entities. -/
structure Naming where
  /-- The general target type (`NSString *`, `id`, `int`). -/
  typeText : TypeRef → String
  /-- The most specific target type, such as `id<Foo>` for an interface. -/
  specificTypeText : TypeRef → String
  /-- The target name of a type. -/
  fullName : TypeRef → String
  /-- The selector of a method, with a colon for every parameter. -/
  selector : Method → String
  /-- The name of a parameter or local variable. -/
  variableName : String → String
  /-- The name of an instance variable. -/
  fieldName : String → String

/-- The name of an annotation member's property. -/
def AnnotationMember.propertyName (m : AnnotationMember) : String := m.name

/-- Annotation members in the order in which the constructor takes them:
by name, members of one name in the order given. -/
def AnnotationMember.sorted (ms : List AnnotationMember) : List AnnotationMember :=
  ms.mergeSort fun a b => decide (a.name ≤ b.name)

/-- Sorting keeps every member. -/
theorem AnnotationMember.sorted_perm (ms : List AnnotationMember) : (sorted ms).Perm ms :=
  List.mergeSort_perm ..

namespace TypeRef

/-- The simple name with `_` between outer and inner names. -/
def flatName (t : TypeRef) : String :=
  String.ofList (t.simpleName.toList.map fun c => if c = '$' then '_' else c)

end TypeRef

end ObjcDecl
