import ObjcDecl.Emit.Attributes
import ObjcDecl.Emit.Fields

/-!
# Pieces

A piece is something that can be printed by itself, on request, into text
that is under construction.
-/

namespace ObjcDecl

/-- What can be printed by itself. -/
inductive Piece where
  | doc (d : Option Doc)
  | normalMethod (m : Method)
  | constructor (m : Method) (isInner : Bool)
  | instanceVariables (d : TypeDecl) (v : FieldVisibility)
  | fieldSetters (d : TypeDecl) (v : FieldVisibility)
  | function (f : Function)
  | annotationConstructor (ms : List AnnotationMember)

/-- The lines of a piece. -/
def Piece.block (c : Context) : Piece → Emission
  | .doc d => .ok (DocComment.block c.detect d)
  | .normalMethod m => m.normalDeclaration c
  | .constructor m isInner => m.constructorDeclaration c isInner
  | .instanceVariables d v => d.instanceVariables c v
  | .fieldSetters d v => .ok (d.fieldSetters c v)
  | .function f => .ok [.flush (Signature.function c.naming f)]
  | .annotationConstructor ms => .ok [.flush (Signature.annotationConstructor c.naming ms)]

end ObjcDecl
