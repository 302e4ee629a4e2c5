import ObjcDecl.Emit.Context
import ObjcDecl.Emit.DocComment
import ObjcDecl.Emit.Selector

/-!
# Attributes and method declarations

A declared method may carry two attributes. One keeps the compiler from
inferring ownership from the first word of its selector; the other marks
it as deprecated. The warnings of the second kind are of no use within
generated files, so these are bracketed by a pair of pragmas.
-/

namespace ObjcDecl

namespace Attribute

/-- First words from which the compiler infers ownership. -/
def familyHeads : List String := ["new", "copy", "alloc", "init", "mutableCopy"]

/-- Whether the first segment of a selector starts with such a word. -/
def needsFamilyNone (selector : String) : Bool :=
  match Selector.segments selector with
  | [] => false
  | s :: _ => familyHeads.any fun h => h.toList.isPrefixOf s.toList

/-- Whether an annotation is the deprecation marker, under its simple or
its qualified name. -/
def isDeprecation (a : Annotation) : Bool :=
  a.typeName == (if a.isQualified then "java.lang.Deprecated" else "Deprecated")

/-- Whether one of the annotations is the deprecation marker. -/
def hasDeprecation (as : List Annotation) : Bool := as.any isDeprecation

/-- Whether a declaration with these annotations is to be marked. -/
def marksDeprecated (o : Options) (as : List Annotation) : Bool :=
  o.emitDeprecated && hasDeprecation as

/-- The mark of a deprecated declaration, nothing for others. -/
def deprecated (o : Options) (as : List Annotation) : String :=
  if marksDeprecated o as then " __attribute__((deprecated))" else ""

/-- The mark against inferred ownership, nothing where it is not needed.
A method that is absent from the source never has it. -/
def familyNone (m : Method) (selector : String) : String :=
  if !m.modifiers.isSynthetic && needsFamilyNone selector then " OBJC_METHOD_FAMILY_NONE" else ""

end Attribute

namespace DeprecationRegion

/-- The lines that open a region without deprecation warnings. -/
def opening : Block :=
  [.flush "#pragma clang diagnostic push",
   .flush "#pragma GCC diagnostic ignored \"-Wdeprecated-declarations\""]

/-- The line that closes it. -/
def closing : Block := [.flush "#pragma clang diagnostic pop"]

/-- A block within a region of its own, where regions are wanted. -/
def around (o : Options) (b : Block) : Block :=
  if o.emitDeprecated then opening ++ b ++ closing else b

end DeprecationRegion

namespace Method

/-- The declaration of a normal method: a blank line, the comment, the
signature and its attributes. -/
def normalDeclaration (c : Context) (m : Method) : Emission := do
  let signature ← Signature.normalMethod c.naming m
  pure (.blank :: DocComment.block c.detect m.doc ++
    [.flush (signature ++ Attribute.familyNone m (c.naming.selector m) ++
      Attribute.deprecated c.options m.annotations ++ ";")])

/-- The declaration of a constructor: a blank line, the comment, the
signature and its attribute. -/
def constructorDeclaration (c : Context) (isInner : Bool) (m : Method) : Emission := do
  let signature ← Signature.constructor c.naming m isInner
  pure (.blank :: DocComment.block c.detect m.doc ++
    [.flush (signature ++ Attribute.deprecated c.options m.annotations ++ ";")])

end Method

end ObjcDecl
