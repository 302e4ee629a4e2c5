import ObjcDecl.Emit.Fields

/-!
# Hidden members

With private members hidden, private and synthetic members are declared
in a class extension within the implementation and not in the header.
-/

namespace ObjcDecl

/-- Whether a member with these modifiers is left to the implementation. -/
def Modifiers.isHidden (ms : Modifiers) (o : Options) : Bool :=
  o.hidePrivate && ms.isPrivateOrSynthetic

/-- Whether a member is a method that the header leaves to the
implementation. -/
def Member.isHiddenMethod (o : Options) : Member → Bool
  | .method m => m.modifiers.isHidden o
  | _ => false

/-- Whether the implementation has members to declare that the header
leaves to it. -/
def TypeDecl.hasHiddenMembers (d : TypeDecl) (o : Options) : Bool :=
  d.hasInstanceVariables .privateOnly o || d.body.any (Member.isHiddenMethod o)

end ObjcDecl
