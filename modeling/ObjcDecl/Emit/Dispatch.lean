import ObjcDecl.Tree.SourceUnit

/-!
# Routing declarations

The header and the implementation visit the same members in the same
order and differ only in what they do with each. `MemberHooks` is what a
visitor does with a member, `TypeHooks` what it does with a type; the
functions here decide which hook a declaration goes to. Members that have
no hook are emitted by functions of their own.
-/

namespace ObjcDecl

universe u

/-- What a visitor does with the members of a body. -/
structure MemberHooks (α : Type u) where
  normalMethod : Method → α
  constructor : Method → α
  function : Function → α
  native : NativeBlock → α

namespace MemberHooks

variable {α : Type u}

/-- The answer for a method, which may be a constructor. -/
def method (h : MemberHooks α) (m : Method) : α :=
  if m.isConstructor then h.constructor m else h.normalMethod m

/-- The answers for the methods and native blocks of a body. -/
def declarations (h : MemberHooks α) (body : List Member) : List α :=
  body.filterMap fun
    | .method m => some (h.method m)
    | .native n => some (h.native n)
    | _ => none

/-- The answers for the free functions of a body. -/
def functions (h : MemberHooks α) (body : List Member) : List α :=
  body.filterMap fun
    | .function f => some (h.function f)
    | _ => none

end MemberHooks

/-- What a visitor does with a type. -/
structure TypeHooks (α : Type u) where
  classDecl : TypeDecl → α
  enumDecl : TypeDecl → α
  annotationDecl : TypeDecl → α

/-- The answer for a type, by its kind. -/
def TypeHooks.visit {α : Type u} (h : TypeHooks α) (d : TypeDecl) : α :=
  match d.kind with
  | .classDecl => h.classDecl d
  | .enumDecl => h.enumDecl d
  | .annotationDecl => h.annotationDecl d

end ObjcDecl
