import ObjcDecl.Proofs.Layout

/-!
# The layout of a header

`Header.layout` lists what the header says of a type: the head of its
interface with the instance variables, the declarations in the order of
the members, and after the end of the interface the initialization, the
setters, the static variables and the exported functions. The emitters of
`ObjcDecl.Emit.Header` are shown to print this list, for every kind of
type, and to stop exactly where an item of it cannot be printed
(`Header.ofType_eq_emit`).
-/

namespace ObjcDecl.Header

/-- What the header says of a member within the interface. -/
def memberItems (o : Options) : Member → Layout
  | .method m => if m.modifiers.isHidden o then [] else [.declaration m]
  | .native n => [.native n.headerCode]
  | _ => []

/-- What the header says of a member after the interface. -/
def functionItems : Member → Layout
  | .function f => if f.isPrivate then [] else [.exportedPrototype f]
  | _ => []

/-- What the header says of a static variable. -/
def staticItems : Field × Variable → Layout
  | (f, v) =>
    (if v.binding.isPrimitiveConstant then [] else [.storageExport f v]) ++ [.accessor f v]

/-- What comes before the declarations. -/
def headItems (c : Context) (d : TypeDecl) : Layout :=
  match d.kind with
  | .classDecl =>
    [.interfaceHead (superclassName c.naming d) (d.instanceFields .nonPrivate c.options)]
  | .enumDecl =>
    [.enumeration, .interfaceHead enumSuperclass (d.instanceFields .nonPrivate c.options)]
  | .annotationDecl => [.annotationInterface]

/-- The declarations of methods, with the native code among them. -/
def declarationItems (c : Context) (d : TypeDecl) : Layout :=
  match d.kind with
  | .annotationDecl => []
  | _ => (d.allMembers c.naming).flatMap (memberItems c.options)

/-- The constants of an enum. -/
def valuesItems (d : TypeDecl) : Layout :=
  match d.kind with
  | .enumDecl => .valuesExport :: Layout.headed .blank (d.enumConstants.map .constantAccessor)
  | _ => []

/-- What follows the interface of a type of any kind. -/
def trailerItems (o : Options) (d : TypeDecl) : Layout :=
  .initialization d.initializes :: Layout.headed .blank (d.setterItems .nonPrivate o) ++
    Layout.headed .blank (d.staticVariables.flatMap staticItems) ++
    d.body.flatMap functionItems ++ [.literal "J2OBJC_TYPE_LITERAL_HEADER"]

/-- What comes after the declarations. -/
def tailItems (c : Context) (d : TypeDecl) : Layout :=
  .ending :: valuesItems d ++ trailerItems c.options d

/-- What the header says of a type. -/
def layout (c : Context) (d : TypeDecl) : Layout :=
  headItems c d ++ declarationItems c d ++ tailItems c d

variable {c : Context} {d : TypeDecl}

theorem declarationItems_of_ne (hk : d.kind ≠ .annotationDecl) :
    declarationItems c d = (d.allMembers c.naming).flatMap (memberItems c.options) := by
  unfold declarationItems
  split
  · exact absurd ‹_› hk
  · rfl

/-! ## The parts of the header print the parts of the layout -/

theorem emit_interfaceHead (superclass : String) :
    (Item.interfaceHead superclass (d.instanceFields .nonPrivate c.options)).emit c d =
      interface c d superclass := by
  simp only [Item.emit, TypeDecl.bracedVariables_instanceFields]
  rfl

/-- Visiting members prints their items, whether a member is a method, a
constructor or native code, and whether it is hidden or not. -/
theorem emit_memberItems (ms : List Member) :
    Layout.emit c d (ms.flatMap (memberItems c.options)) =
      Block.sequence ((memberHooks c d.namesConstructors).declarations ms) := by
  refine Layout.emit_flatMap_eq_sequence (fun x => ?_) ms
  cases x with
  | method m =>
    simp only [memberItems, memberHooks, MemberHooks.method, Option.getD_some]
    by_cases hidden : m.modifiers.isHidden c.options = true
    · simp only [if_pos hidden, ite_self]
      rfl
    · simp only [if_neg hidden]
      exact Layout.emit_singleton ..
  | native n => exact Layout.emit_singleton ..
  | _ => rfl

theorem emit_staticItems :
    Layout.emit c d (Layout.headed .blank (d.staticVariables.flatMap staticItems)) =
      .ok (d.staticAccessors c.naming) := by
  refine Layout.emit_headed (Layout.emit_flatMap_of_forall fun p _ => ?_) ?_
  · obtain ⟨f, v⟩ := p
    simp only [staticItems, TypeDecl.storageExport]
    split <;> rfl
  · intro h
    simp only [List.flatMap_eq_nil_iff, List.append_eq_nil_iff, List.cons_ne_nil, and_false,
      imp_false] at h
    rw [List.eq_nil_iff_forall_not_mem.mpr h]
    rfl

theorem emit_functionItems :
    Layout.emit c d (d.body.flatMap functionItems) =
      Block.sequence ((memberHooks c false).functions d.body) := by
  refine Layout.emit_flatMap_eq_sequence (fun x => ?_) d.body
  cases x with
  | function f =>
    simp only [functionItems, memberHooks]
    split <;> rfl
  | _ => rfl

theorem emit_trailerItems :
    Layout.emit c d (trailerItems c.options d) = trailer c d d.initializes := by
  simp only [trailerItems, trailer, Layout.emit_append, Layout.emit_cons, Layout.emit_nil,
    Layout.emit_setterItems, emit_staticItems, emit_functionItems, Item.emit, Emission.ok_bind,
    bind_assoc, pure_bind, List.append_assoc, List.append_nil]
  rfl

theorem emit_constantAccessors :
    Layout.emit c d (Layout.headed .blank (d.enumConstants.map .constantAccessor)) =
      .ok (enumAccessors c.naming d) := by
  refine Layout.emit_headed (Layout.emit_map_lines fun _ _ => rfl) fun h => ?_
  rw [List.map_eq_nil_iff.mp h]
  rfl

/-! ## The header prints its layout -/

theorem classDecl_eq_emit (hk : d.kind = .classDecl) :
    classDecl c d = Layout.emit c d (layout c d) := by
  have members : d.allMembers c.naming = d.body := d.allMembers_eq_body c.naming (by simp [hk])
  have inner : d.namesConstructors = d.isInner := by simp [TypeDecl.namesConstructors, hk]
  have init : d.initializes = d.hasInitialize := by simp [TypeDecl.initializes, hk]
  simp only [layout, headItems, declarationItems, tailItems, valuesItems, hk, members,
    Layout.emit_append, Layout.emit_cons, Layout.emit_nil, emit_interfaceHead, emit_memberItems,
    inner, emit_trailerItems, init]
  simp only [classDecl, Item.emit, Emission.ok_bind, bind_assoc, pure_bind, List.append_assoc,
    List.nil_append]

theorem enumDecl_eq_emit (hk : d.kind = .enumDecl) :
    enumDecl c d = Layout.emit c d (layout c d) := by
  have inner : d.namesConstructors = false := by simp [TypeDecl.namesConstructors, hk]
  have init : d.initializes = true := by simp [TypeDecl.initializes, hk]
  simp only [layout, headItems, declarationItems, tailItems, valuesItems, hk,
    Layout.emit_append, Layout.emit_cons, Layout.emit_nil, emit_interfaceHead, emit_memberItems,
    inner, d.sequence_allMembers c.naming hk, emit_constantAccessors, emit_trailerItems, init]
  simp only [enumDecl, Item.emit, Emission.ok_bind, bind_assoc, pure_bind, List.append_assoc,
    List.nil_append]

theorem annotationDecl_eq_emit (hk : d.kind = .annotationDecl) :
    annotationDecl c d = Layout.emit c d (layout c d) := by
  have init : d.initializes = false := by simp [TypeDecl.initializes, hk]
  simp only [layout, headItems, declarationItems, tailItems, valuesItems, hk,
    Layout.emit_append, Layout.emit_cons, Layout.emit_nil, emit_trailerItems, init]
  simp only [annotationDecl, Item.emit, Emission.ok_bind, bind_assoc, pure_bind,
    List.append_assoc, List.nil_append]

/-- The header of a type is its layout, line by line, and it is refused
exactly where an item of the layout is. -/
theorem ofType_eq_emit (c : Context) (d : TypeDecl) :
    ofType c d = Layout.emit c d (layout c d) := by
  cases hk : d.kind with
  | classDecl => simpa only [ofType, typeHooks, TypeHooks.visit, hk] using classDecl_eq_emit hk
  | enumDecl => simpa only [ofType, typeHooks, TypeHooks.visit, hk] using enumDecl_eq_emit hk
  | annotationDecl =>
    simpa only [ofType, typeHooks, TypeHooks.visit, hk] using annotationDecl_eq_emit hk

end ObjcDecl.Header
