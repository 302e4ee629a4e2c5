import ObjcDecl.GeneratedFiles
import ObjcDecl.Proofs.Layout

/-!
# The header shows the public part

A header that does not change is not written again, and whoever includes
it is not compiled again. So it matters that the header says nothing of
what is private to the implementation: the bodies of methods and
functions, the code for the implementation, the statements of the class
initializer, private functions and, where private members are hidden,
these members. `SourceUnit.publicPart` takes all of this away, and the
header stays what it was, or is refused for the same cause
(`header_publicPart`).

Every printer of a header reads a body through one of a few lists: the
field statements of a place, the static variables, the constants, the
annotation members, the declared members and the exported functions. There
is one law for each of them.
-/

namespace ObjcDecl

/-- Statements of a class initializer; there is at least one. -/
abbrev Statements := { statements : List String // statements ≠ [] }

def Method.withoutBody (m : Method) : Method := { m with body := [] }

def Function.withoutBody (f : Function) : Function := { f with body := [] }

namespace Member

/-- Whether a field statement is left to the implementation and has no
static variable. -/
def isHiddenField (o : Options) (f : Field) : Bool :=
  !f.isStatic && f.modifiers.areLeftOut o && !f.vars.any fun v => v.binding.isStatic

/-- What others may know of a member, if anything. -/
def publicPart (o : Options) : Member → Option Member
  | .method m => if m.modifiers.areLeftOut o then none else some (.method m.withoutBody)
  | .function f => if f.isPrivate then none else some (.function f.withoutBody)
  | .native n => some (.native { n with implementationCode := none })
  | .field f => if isHiddenField o f then none else some (.field f)
  | x => some x

end Member

/-- What others may know of a type: the public parts of its members, and
whether it has a class initializer but not what it does. -/
def TypeDecl.publicPart (o : Options) (statements : Statements) (d : TypeDecl) : TypeDecl :=
  { d with
    body := d.body.filterMap (Member.publicPart o)
    classInit := if d.classInit.isEmpty then [] else statements.val }

/-- What others may know of a unit. In the place of the class initializer
of the type number `i`, if it has one, stands `statements i`. -/
def SourceUnit.publicPart (o : Options) (statements : Nat → Statements) (u : SourceUnit) :
    SourceUnit :=
  { u with types := u.types.mapIdx fun i d => d.publicPart o (statements i) }

/-- Whoever looks neither at methods and functions nor at fields, nor into
native code, finds a member as it is. -/
theorem Member.publicPart_bind {β : Type} {q : Member → Option β} (o : Options) (x : Member)
    (method : ∀ m, q (.method m) = none) (function : ∀ f, q (.function f) = none)
    (field : ∀ f, q (.field f) = none) (native : ∀ n n', q (.native n) = q (.native n')) :
    (x.publicPart o).bind q = q x := by
  cases x with
  | method m => cases hidden : m.modifiers.areLeftOut o <;> simp [publicPart, hidden, method]
  | function f => cases hidden : f.isPrivate <;> simp [publicPart, hidden, function]
  | field f => cases hidden : isHiddenField o f <;> simp [publicPart, hidden, field]
  | native n => exact native _ n
  | _ => rfl

/-! ## What is read from a body -/

/-- Elements that give nothing can be left out. -/
theorem flatMap_filter_of_eq_nil {α β : Type} {p : α → Bool} {g : α → List β}
    (h : ∀ x, (p x) = false → g x = []) (l : List α) : (l.filter p).flatMap g = l.flatMap g := by
  induction l with
  | nil => rfl
  | cons x l ih => cases hx : p x <;> simp [hx, ih, h]

section Body

variable (o : Options) (body : List Member)

/-- A list that is read from a body member by member can be read from the
public parts, if this holds for every single member. -/
theorem filterMap_publicPart {β : Type} {q q' : Member → Option β}
    (h : ∀ x, (x.publicPart o).bind q = q' x) :
    (body.filterMap (Member.publicPart o)).filterMap q = body.filterMap q' := by
  rw [List.filterMap_filterMap]
  exact congrArg (body.filterMap ·) (funext h)

/-- What is dropped from a body may have given nothing in sequence. -/
theorem sequence_publicPart {q : Member → Option Emission}
    (h : ∀ x, ((x.publicPart o).bind q).getD (.ok []) = (q x).getD (.ok [])) :
    Block.sequence ((body.filterMap (Member.publicPart o)).filterMap q) =
      Block.sequence (body.filterMap q) := by
  rw [List.filterMap_filterMap, Block.sequence_filterMap, Block.sequence_filterMap]
  exact congrArg (fun e => Block.sequence (body.map e)) (funext h)

end Body

/-! ## Declarations -/

/-- The names in a generated file do not depend on what is run. -/
theorem selector_withoutBody (o : Options) (m : Method) :
    (SourceUnit.context o).naming.selector m.withoutBody =
      (SourceUnit.context o).naming.selector m := rfl

section Declarations

variable {c : Context}
  (named : ∀ m : Method, c.naming.selector m.withoutBody = c.naming.selector m)
include named

theorem normalDeclaration_withoutBody (m : Method) :
    m.withoutBody.normalDeclaration c = m.normalDeclaration c := by
  simp only [Method.normalDeclaration, Signature.normalMethod, named]
  rfl

theorem constructorDeclaration_withoutBody (isInner : Bool) (m : Method) :
    m.withoutBody.constructorDeclaration c isInner = m.constructorDeclaration c isInner := by
  simp only [Method.constructorDeclaration, Signature.constructor, named]
  rfl

theorem sequence_declarations_publicPart (isInner : Bool) (body : List Member) :
    Block.sequence ((Header.memberHooks c isInner).declarations
      (body.filterMap (Member.publicPart c.options))) =
        Block.sequence ((Header.memberHooks c isInner).declarations body) := by
  refine sequence_publicPart c.options body fun x => ?_
  cases x with
  | method m =>
    have kept : m.withoutBody.modifiers.areLeftOut c.options = m.modifiers.areLeftOut c.options :=
      rfl
    have kind : m.withoutBody.isConstructor = m.isConstructor := rfl
    -- a hidden method has an emission, which is empty; its public part has none
    cases hidden : m.modifiers.areLeftOut c.options <;> cases m.isConstructor <;>
      simp [Member.publicPart, MemberHooks.method, Header.memberHooks, Modifiers.isHidden_eq,
        hidden, kept, kind, normalDeclaration_withoutBody named,
        constructorDeclaration_withoutBody named]
  | function f => cases hidden : f.isPrivate <;> simp [Member.publicPart, hidden]
  | field f => cases hidden : Member.isHiddenField c.options f <;> simp [Member.publicPart, hidden]
  | _ => rfl

end Declarations

theorem sequence_functions_publicPart (c : Context) (body : List Member) :
    Block.sequence ((Header.memberHooks c false).functions
      (body.filterMap (Member.publicPart c.options))) =
        Block.sequence ((Header.memberHooks c false).functions body) := by
  refine sequence_publicPart c.options body fun x => ?_
  cases x with
  | method m => cases hidden : m.modifiers.areLeftOut c.options <;> simp [Member.publicPart, hidden]
  | function f =>
    have kept : f.withoutBody.isPrivate = f.isPrivate := rfl
    have signature : Signature.function c.naming f.withoutBody = Signature.function c.naming f := rfl
    cases hidden : f.isPrivate <;>
      simp [Member.publicPart, Header.memberHooks, hidden, kept, signature]
  | field f => cases hidden : Member.isHiddenField c.options f <;> simp [Member.publicPart, hidden]
  | _ => rfl

/-! ## Types -/

namespace TypeDecl

section Body

variable (o : Options) (statements : Statements) (d : TypeDecl)

theorem body_publicPart :
    (d.publicPart o statements).body = d.body.filterMap (Member.publicPart o) := rfl

theorem fields_publicPart :
    (d.publicPart o statements).fields = d.fields.filter fun f => !Member.isHiddenField o f := by
  unfold fields
  rw [List.filter_filterMap]
  refine filterMap_publicPart o d.body fun x => ?_
  cases x with
  | method m => cases hidden : m.modifiers.areLeftOut o <;> simp [Member.publicPart, hidden]
  | function f => cases hidden : f.isPrivate <;> simp [Member.publicPart, hidden]
  | field f =>
    cases hidden : Member.isHiddenField o f <;> simp [Member.publicPart, hidden, Option.filter]
  | _ => rfl

theorem enumConstants_publicPart :
    (d.publicPart o statements).enumConstants = d.enumConstants :=
  filterMap_publicPart o d.body fun x => by
    rw [Member.publicPart_bind] <;> intros <;> rfl

theorem annotationMembers_publicPart :
    (d.publicPart o statements).annotationMembers = d.annotationMembers :=
  filterMap_publicPart o d.body fun x => by
    rw [Member.publicPart_bind] <;> intros <;> rfl

theorem hasInitialize_publicPart :
    (d.publicPart o statements).hasInitialize = d.hasInitialize := by
  cases none : d.classInit.isEmpty with
  | true => simp [hasInitialize, publicPart, none]
  | false => simp [hasInitialize, publicPart, none, statements.property]

/-- The statements that are dropped are not declared in the header. -/
theorem instanceFields_publicPart :
    (d.publicPart o statements).instanceFields .nonPrivate o = d.instanceFields .nonPrivate o := by
  rw [instanceFields, fields_publicPart, List.filter_filter, instanceFields]
  refine List.filter_congr fun f _ => ?_
  have hidden : f.modifiers.areLeftOut o = (o.hidePrivate && f.modifiers.isPrivateOrSynthetic) :=
    rfl
  cases hide : o.hidePrivate <;> cases secret : f.modifiers.isPrivateOrSynthetic <;>
    simp [Field.isInstanceFieldOf, FieldVisibility.includes, Member.isHiddenField, hidden, hide,
      secret]

/-- The statements that are dropped have no static variables. -/
theorem staticVariables_publicPart :
    (d.publicPart o statements).staticVariables = d.staticVariables := by
  unfold staticVariables vars
  rw [fields_publicPart, List.filter_flatMap, List.filter_flatMap]
  refine flatMap_filter_of_eq_nil (fun f dropped => ?_) d.fields
  have static : f.vars.any (fun v => v.binding.isStatic) = false := by
    simp only [Member.isHiddenField, Bool.not_eq_false', Bool.and_eq_true] at dropped
    simpa using dropped.2
  simpa [List.filter_map, List.filter_eq_nil_iff] using static

end Body

end TypeDecl

/-! ## The header -/

namespace Header

section Parts

variable (c : Context) (statements : Statements) (d : TypeDecl)

theorem interface_publicPart (superclass : String) :
    interface c (d.publicPart c.options statements) superclass = interface c d superclass := by
  simp only [interface, TypeDecl.hasInstanceVariables_eq, TypeDecl.instanceVariables,
    d.instanceFields_publicPart]
  rfl

theorem trailer_publicPart (hasInitialize : Bool) :
    trailer c (d.publicPart c.options statements) hasInitialize = trailer c d hasInitialize := by
  simp only [trailer, TypeDecl.fieldSetters, TypeDecl.staticAccessors,
    d.instanceFields_publicPart, d.staticVariables_publicPart, d.body_publicPart,
    sequence_functions_publicPart]
  rfl

theorem annotationDecl_publicPart :
    annotationDecl c (d.publicPart c.options statements) = annotationDecl c d := by
  simp only [annotationDecl, trailer_publicPart, d.annotationMembers_publicPart]
  rfl

variable {c} (named : ∀ m : Method, c.naming.selector m.withoutBody = c.naming.selector m)
include named

theorem classDecl_publicPart :
    classDecl c (d.publicPart c.options statements) = classDecl c d := by
  have declarations := sequence_declarations_publicPart named d.isInner d.body
  have sameInner : (d.publicPart c.options statements).isInner = d.isInner := rfl
  have sameSuperclass : superclassName c.naming (d.publicPart c.options statements) =
    superclassName c.naming d := rfl
  simp only [classDecl, interface_publicPart, trailer_publicPart, d.hasInitialize_publicPart,
    sameInner, sameSuperclass, d.body_publicPart, declarations]

theorem enumDecl_publicPart :
    enumDecl c (d.publicPart c.options statements) = enumDecl c d := by
  have declarations := sequence_declarations_publicPart named false d.body
  have support : (d.publicPart c.options statements).enumSupport c.naming =
      d.enumSupport c.naming := by
    simp only [TypeDecl.enumSupport, TypeDecl.valuesMethod, TypeDecl.valueOfMethod,
      TypeDecl.enumSize, d.enumConstants_publicPart]
    rfl
  simp only [enumDecl, interface_publicPart, trailer_publicPart, enumeration, enumAccessors,
    d.enumConstants_publicPart, support, d.body_publicPart, declarations]
  rfl

/-- The header of a type says nothing that the public part does not. -/
theorem ofType_publicPart :
    ofType c (d.publicPart c.options statements) = ofType c d := by
  have kind : (d.publicPart c.options statements).kind = d.kind := rfl
  unfold ofType TypeHooks.visit
  rw [kind]
  cases d.kind with
  | classDecl => exact classDecl_publicPart statements d named
  | enumDecl => exact enumDecl_publicPart statements d named
  | annotationDecl => exact annotationDecl_publicPart c statements d

end Parts

end Header

/-- The header of a unit is the header of its public part: the same text,
or refused for the same cause. -/
theorem header_publicPart (o : Options) (statements : Nat → Statements) (u : SourceUnit) :
    (u.publicPart o statements).header o = u.header o := by
  have types : (u.publicPart o statements).types.map (Header.ofType (SourceUnit.context o)) =
      u.types.map (Header.ofType (SourceUnit.context o)) := by
    refine List.ext_getElem? fun i => ?_
    rw [SourceUnit.publicPart, List.getElem?_map, List.getElem?_mapIdx, Option.map_map,
      List.getElem?_map]
    congr 1
    funext d
    exact Header.ofType_publicPart (statements i) d (selector_withoutBody o)
  have fileName : (u.publicPart o statements).fileName = u.fileName := by
    rw [SourceUnit.fileName, SourceUnit.publicPart, List.head?_mapIdx, Option.map_map]
    rfl
  simp only [SourceUnit.header, Header.file, types, fileName]
  rfl

end ObjcDecl
