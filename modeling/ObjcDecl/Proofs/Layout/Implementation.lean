import ObjcDecl.Proofs.Layout

/-!
# The layout of an implementation

`Implementation.layout` lists what the implementation says of a type: the
class extension if members are hidden, the prototypes of private
functions, the storage of static variables, the definitions in the order
of the members, the class initializer, and after the end the definitions
of functions. An annotation type has none of these but a fixed set of
methods. The emitters of `ObjcDecl.Emit.Implementation` are shown to
print this list (`Implementation.ofType_eq_emit`).
-/

namespace ObjcDecl.Implementation

/-- What the class extension says of a member. -/
def hiddenItems (o : Options) : Member → Layout
  | .method m => if m.modifiers.isHidden o then [.declaration m] else []
  | _ => []

/-- What the implementation says of a member before the definitions. -/
def prototypeItems : Member → Layout
  | .function f => if f.isPrivate then [.privatePrototype f] else []
  | _ => []

/-- What the implementation says of a member among the definitions. -/
def definitionItems : Member → Layout
  | .method m => [.definition m]
  | .native n => [.native n.implementationCode]
  | _ => []

/-- What the implementation says of a member after the definitions. -/
def functionItems : Member → Layout
  | .function f => [.functionDefinition f]
  | _ => []

/-- The class extension, nothing where no member is hidden. -/
def extensionItems (c : Context) (d : TypeDecl) : Layout :=
  if d.hasHiddenMembers c.options then
    .extensionHead (d.instanceFields .privateOnly c.options) ::
      d.body.flatMap (hiddenItems c.options) ++
      .ending :: Layout.headed .blank (d.setterItems .privateOnly c.options)
  else []

/-- The static variables, after the array of an enum's constants. -/
def storageItems (d : TypeDecl) : Layout :=
  (if d.kind = .enumDecl then [.valuesStorage] else []) ++
    Layout.headed .blank (d.storedVariables.map fun p => .storage p.1 p.2)

/-- What comes before the definitions of a class or enum. -/
def headItems (c : Context) (d : TypeDecl) : Layout :=
  extensionItems c d ++ d.body.flatMap prototypeItems ++ storageItems d ++ [.implementationHead]

/-- What comes after the definitions of a class or enum. -/
def tailItems (d : TypeDecl) : Layout :=
  (if d.initializes then [.initializer] else []) ++
    .ending :: d.body.flatMap functionItems ++ [.literal "J2OBJC_CLASS_TYPE_LITERAL_SOURCE"]

/-- What the implementation says of a type. -/
def layout (c : Context) (d : TypeDecl) : Layout :=
  match d.kind with
  | .annotationDecl =>
    [.implementationHead, .annotationDefinitions, .ending,
     .literal "J2OBJC_INTERFACE_TYPE_LITERAL_SOURCE"]
  | _ => headItems c d ++ (d.allMembers c.naming).flatMap definitionItems ++ tailItems d

variable {c : Context} {d : TypeDecl}

theorem layout_of_ne (hk : d.kind ≠ .annotationDecl) :
    layout c d =
      headItems c d ++ (d.allMembers c.naming).flatMap definitionItems ++ tailItems d := by
  unfold layout
  split
  · exact absurd ‹_› hk
  · rfl

/-! ## The parts of the implementation print the parts of the layout -/

/-- Visiting a body for its hidden methods prints their declarations. -/
theorem emit_hiddenItems :
    Layout.emit c d (d.body.flatMap (hiddenItems c.options)) =
      Block.sequence ((extensionHooks c d.namesConstructors).declarations d.body) := by
  refine Layout.emit_flatMap_eq_sequence (fun x => ?_) d.body
  cases x with
  | method m =>
    simp only [hiddenItems, extensionHooks, MemberHooks.method, Option.getD_some]
    by_cases hidden : m.modifiers.isHidden c.options = true
    · simp only [if_pos hidden]
      exact Layout.emit_singleton ..
    · simp only [if_neg hidden, ite_self]
      rfl
  | _ => rfl

theorem emit_extensionItems :
    Layout.emit c d (extensionItems c d) = classExtension c d d.namesConstructors := by
  unfold extensionItems classExtension
  split
  · simp only [Layout.emit_append, Layout.emit_cons, emit_hiddenItems, Layout.emit_setterItems,
      Item.emit, TypeDecl.bracedVariables_instanceFields, Emission.ok_bind, bind_assoc, pure_bind,
      List.append_assoc, List.cons_append]
    rfl
  · rfl

theorem emit_prototypeItems :
    Layout.emit c d (d.body.flatMap prototypeItems) = prototypes c d := by
  refine Layout.emit_flatMap_eq_sequence (fun x => ?_) d.body
  cases x with
  | function f =>
    simp only [prototypeItems, extensionHooks]
    split <;> rfl
  | _ => rfl

theorem emit_storedVariables :
    Layout.emit c d (Layout.headed .blank (d.storedVariables.map fun p => .storage p.1 p.2)) =
      .ok (d.staticStorage c.naming) := by
  refine Layout.emit_headed (Layout.emit_map_lines fun _ _ => rfl) fun h => ?_
  rw [List.map_eq_nil_iff.mp h]
  rfl

/-- Visiting members for their definitions prints all of them. -/
theorem emit_definitionItems (ms : List Member) :
    Layout.emit c d (ms.flatMap definitionItems) =
      Block.sequence ((definitionHooks c d.namesConstructors).declarations ms) := by
  refine Layout.emit_flatMap_eq_sequence (fun x => ?_) ms
  cases x with
  | method m => exact Layout.emit_singleton ..
  | native n => exact Layout.emit_singleton ..
  | _ => rfl

theorem emit_functionItems :
    Layout.emit c d (d.body.flatMap functionItems) = functions c d := by
  refine Layout.emit_flatMap_eq_sequence (fun x => ?_) d.body
  cases x with
  | function f => exact Layout.emit_singleton ..
  | _ => rfl

theorem emit_initializer (needed : Bool) :
    Layout.emit c d (if needed then [.initializer] else []) =
      .ok (if needed then classInitializer c.naming d else []) := by
  cases needed with
  | false => rfl
  | true => exact Layout.emit_singleton ..

/-! ## The implementation prints its layout -/

theorem classDecl_eq_emit (hk : d.kind = .classDecl) :
    classDecl c d = Layout.emit c d (layout c d) := by
  have members : d.allMembers c.naming = d.body := d.allMembers_eq_body c.naming (by simp [hk])
  have inner : d.namesConstructors = d.isInner := by simp [TypeDecl.namesConstructors, hk]
  have init : d.initializes = d.hasInitialize := by simp [TypeDecl.initializes, hk]
  simp only [layout, headItems, tailItems, storageItems, hk, members, init, reduceCtorEq, if_false,
    Layout.emit_append, Layout.emit_cons, Layout.emit_nil, emit_extensionItems,
    emit_prototypeItems, emit_storedVariables, emit_definitionItems, emit_initializer,
    emit_functionItems, inner]
  simp only [classDecl, Item.emit, classLiteral, Emission.ok_bind, bind_assoc, pure_bind,
    List.append_assoc, List.nil_append, List.append_nil]

theorem enumDecl_eq_emit (hk : d.kind = .enumDecl) :
    enumDecl c d = Layout.emit c d (layout c d) := by
  have inner : d.namesConstructors = false := by simp [TypeDecl.namesConstructors, hk]
  have init : d.initializes = true := by simp [TypeDecl.initializes, hk]
  simp only [layout, headItems, tailItems, storageItems, hk, init, if_true,
    Layout.emit_append, Layout.emit_cons, Layout.emit_nil, emit_extensionItems,
    emit_prototypeItems, emit_storedVariables, emit_definitionItems, emit_functionItems, inner,
    d.sequence_allMembers c.naming hk]
  simp only [enumDecl, Item.emit, classLiteral, Emission.ok_bind, bind_assoc, pure_bind,
    List.append_assoc, List.append_nil]

theorem annotationDecl_eq_emit (hk : d.kind = .annotationDecl) :
    annotationDecl c d = Layout.emit c d (layout c d) := by
  simp only [layout, hk, Layout.emit_cons, Layout.emit_nil]
  simp only [annotationDecl, Item.emit, Emission.ok_bind, pure_bind, List.append_assoc,
    List.append_nil]
  rfl

/-- The implementation of a type is its layout, line by line, and it is
refused exactly where an item of the layout is. -/
theorem ofType_eq_emit (c : Context) (d : TypeDecl) :
    ofType c d = Layout.emit c d (layout c d) := by
  cases hk : d.kind with
  | classDecl => simpa only [ofType, typeHooks, TypeHooks.visit, hk] using classDecl_eq_emit hk
  | enumDecl => simpa only [ofType, typeHooks, TypeHooks.visit, hk] using enumDecl_eq_emit hk
  | annotationDecl =>
    simpa only [ofType, typeHooks, TypeHooks.visit, hk] using annotationDecl_eq_emit hk

end ObjcDecl.Implementation
