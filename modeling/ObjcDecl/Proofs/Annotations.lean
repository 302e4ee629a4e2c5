import ObjcDecl.Proofs.Layout.Parts
import ObjcDecl.Proofs.Separation

/-!
# What annotations change

The generator reads annotations for one purpose, to find the marker of a
deprecated method, which has two names. So a change of the annotations of
a unit that makes no mark and takes none away is not seen in its files
(`SourceUnit.header_mapAnnotations`, `implementation_mapAnnotations`). Two
such changes are of interest: all annotations are erased where nothing is
marked anyway, and those other than the markers are erased where something
is.

The layouts of a type's files carry the proof. Only the items that declare
or define a method hold one with its annotations, and a declaration says
of these whether they mark it, a definition nothing.
-/

namespace ObjcDecl

/-! ## Annotations -/

/-- Whether the annotation is the marker of deprecation: its simple name or
the qualified one, and no other. -/
def Annotation.IsMarker (a : Annotation) : Prop :=
  a.typeName = "Deprecated" ∨ a.typeName = "java.lang.Deprecated"

instance : DecidablePred Annotation.IsMarker := fun a =>
  inferInstanceAs (Decidable (a.typeName = "Deprecated" ∨ a.typeName = "java.lang.Deprecated"))

/-- Whether a method is marked as deprecated in the source. -/
def Method.IsMarked (m : Method) : Prop := ∃ a ∈ m.annotations, a.IsMarker

instance : DecidablePred Method.IsMarked := fun m =>
  inferInstanceAs (Decidable (∃ a ∈ m.annotations, a.IsMarker))

/-- A qualified annotation is compared with the qualified name, any other
with the simple one; either name decides by itself which it is. -/
theorem Attribute.isDeprecation_iff (a : Annotation) : isDeprecation a = true ↔ a.IsMarker := by
  simp only [isDeprecation, Annotation.IsMarker, beq_iff_eq]
  constructor
  · intro h
    cases qualified : a.isQualified with
    | true => exact .inr (by rwa [qualified, if_pos rfl] at h)
    | false => exact .inl (by rwa [qualified, if_neg Bool.false_ne_true] at h)
  · rintro (simple | qualified)
    · have unqualified : a.isQualified = false := by
        unfold Annotation.isQualified
        rw [simple]
        decide
      rw [unqualified, if_neg Bool.false_ne_true, simple]
    · have isQualified : a.isQualified = true := by
        unfold Annotation.isQualified
        rw [qualified]
        decide
      rw [isQualified, if_pos rfl, qualified]

theorem Attribute.hasDeprecation_iff (m : Method) :
    hasDeprecation m.annotations = true ↔ m.IsMarked := by
  simp only [hasDeprecation, List.any_eq_true, isDeprecation_iff, Method.IsMarked]

/-- Lists of annotations changed by a function, method by method. -/
def Method.mapAnnotations (g : List Annotation → List Annotation) (m : Method) : Method :=
  { m with annotations := g m.annotations }

/-- The same for a member; only methods have annotations. -/
def Member.mapAnnotations (g : List Annotation → List Annotation) : Member → Member
  | .method m => .method (m.mapAnnotations g)
  | x => x

/-- The same for all members of a body. -/
def TypeDecl.mapAnnotations (g : List Annotation → List Annotation) (d : TypeDecl) : TypeDecl :=
  { d with body := d.body.map (Member.mapAnnotations g) }

namespace SourceUnit

/-- The same for all types of a unit. -/
def mapAnnotations (g : List Annotation → List Annotation) (u : SourceUnit) : SourceUnit :=
  { u with types := u.types.map (TypeDecl.mapAnnotations g) }

/-- The unit with all lists of annotations erased. -/
def unannotated (u : SourceUnit) : SourceUnit := u.mapAnnotations fun _ => []

/-- The unit with all annotations erased but the markers. -/
def markersOnly (u : SourceUnit) : SourceUnit :=
  u.mapAnnotations fun as => as.filter fun a => a.IsMarker

end SourceUnit

/-! ## What a layout says does not depend on other annotations -/

section Annotations

variable {g : List Annotation → List Annotation} {c : Context}

namespace TypeDecl

variable (g) (d : TypeDecl)

/-- Whoever looks at other members than methods finds a body as it is. -/
theorem filterMap_mapAnnotations {β : Type} {q : Member → Option β}
    (h : ∀ m : Method, q (.method (m.mapAnnotations g)) = q (.method m)) :
    (d.mapAnnotations g).body.filterMap q = d.body.filterMap q := by
  rw [mapAnnotations, List.filterMap_map]
  refine List.filterMap_congr fun x _ => ?_
  cases x with
  | method m => exact h m
  | _ => rfl

theorem fields_mapAnnotations : (d.mapAnnotations g).fields = d.fields :=
  d.filterMap_mapAnnotations g fun _ => rfl

theorem enumConstants_mapAnnotations : (d.mapAnnotations g).enumConstants = d.enumConstants :=
  d.filterMap_mapAnnotations g fun _ => rfl

theorem annotationMembers_mapAnnotations :
    (d.mapAnnotations g).annotationMembers = d.annotationMembers :=
  d.filterMap_mapAnnotations g fun _ => rfl

theorem supportMethods_mapAnnotations (names : Naming) :
    (d.mapAnnotations g).supportMethods names = d.supportMethods names := by
  have same : (d.mapAnnotations g).enumSupport names = d.enumSupport names := by
    simp only [enumSupport, valuesMethod, valueOfMethod, enumSize, enumConstants_mapAnnotations]
    rfl
  simp only [supportMethods, same]
  rfl

theorem instanceFields_mapAnnotations (v : FieldVisibility) (o : Options) :
    (d.mapAnnotations g).instanceFields v o = d.instanceFields v o := by
  simp only [instanceFields, fields_mapAnnotations]

theorem vars_mapAnnotations : (d.mapAnnotations g).vars = d.vars := by
  simp only [vars, fields_mapAnnotations]

theorem functions_mapAnnotations : (d.mapAnnotations g).functions = d.functions :=
  d.filterMap_mapAnnotations g fun _ => rfl

theorem hasHiddenMembers_mapAnnotations (o : Options) :
    (d.mapAnnotations g).hasHiddenMembers o = d.hasHiddenMembers o := by
  have methods : (d.mapAnnotations g).body.any (Member.isHiddenMethod o) =
      d.body.any (Member.isHiddenMethod o) := by
    rw [mapAnnotations, List.any_map]
    congr 1
    funext x
    cases x <;> rfl
  simp only [hasHiddenMembers, hasInstanceVariables, fields_mapAnnotations, methods]

end TypeDecl

/-- An item says of its type nothing that annotations could change. -/
theorem Item.emit_mapAnnotations (c : Context) (d : TypeDecl) (i : Item) :
    i.emit c (d.mapAnnotations g) = i.emit c d := by
  cases i with
  | enumeration =>
    simp only [emit, Header.enumeration, d.enumConstants_mapAnnotations]
    rfl
  | valuesStorage =>
    simp only [emit, TypeDecl.enumSize, d.enumConstants_mapAnnotations]
    rfl
  | annotationInterface =>
    simp only [emit, d.annotationMembers_mapAnnotations]
    rfl
  | annotationDefinitions =>
    simp only [emit, d.annotationMembers_mapAnnotations]
    rfl
  | _ => rfl

theorem Layout.emit_mapAnnotations (c : Context) (d : TypeDecl) (l : Layout) :
    Layout.emit c (d.mapAnnotations g) l = Layout.emit c d l := by
  simp only [Layout.emit, funext (Item.emit_mapAnnotations (g := g) c d)]

/-- Stretches that are printed alike are printed alike in a row. -/
theorem Layout.emit_flatMap_congr {α : Type} {c : Context} {d : TypeDecl} {k k' : α → Layout}
    (h : ∀ x, Layout.emit c d (k x) = Layout.emit c d (k' x)) (l : List α) :
    Layout.emit c d (l.flatMap k) = Layout.emit c d (l.flatMap k') := by
  induction l with
  | nil => rfl
  | cons x l ih => rw [List.flatMap_cons, List.flatMap_cons, emit_append, emit_append, h x, ih]

/-- What is said of the members of a body changes only with what is said
of its methods. -/
theorem Layout.emit_body_mapAnnotations {c : Context} {d : TypeDecl} {k : Member → Layout}
    (h : ∀ m : Method, Layout.emit c d (k (.method (m.mapAnnotations g))) =
      Layout.emit c d (k (.method m))) :
    Layout.emit c d ((d.mapAnnotations g).body.flatMap k) =
      Layout.emit c d (d.body.flatMap k) := by
  rw [TypeDecl.mapAnnotations, List.flatMap_map]
  refine emit_flatMap_congr (fun x => ?_) d.body
  cases x with
  | method m => exact h m
  | _ => rfl

/-- A change of annotations that is not seen in a context: it neither makes
nor takes away a mark, and names do not depend on it. -/
structure Unseen (g : List Annotation → List Annotation) (c : Context) : Prop where
  marks : ∀ as, Attribute.marksDeprecated c.options (g as) =
    Attribute.marksDeprecated c.options as
  names : ∀ m : Method, c.naming.selector (m.mapAnnotations g) = c.naming.selector m

namespace Unseen

variable (unseen : Unseen g c) {d : TypeDecl}
include unseen

theorem declaration (m : Method) :
    (Item.declaration (m.mapAnnotations g)).emit c d = (Item.declaration m).emit c d := by
  have mark : Attribute.deprecated c.options (m.mapAnnotations g).annotations =
      Attribute.deprecated c.options m.annotations := by
    simp only [Attribute.deprecated, Method.mapAnnotations, unseen.marks]
  simp only [Item.emit, Method.constructorDeclaration, Method.normalDeclaration,
    Signature.constructor, Signature.normalMethod, unseen.names, mark]
  rfl

theorem definition (m : Method) :
    (Item.definition (m.mapAnnotations g)).emit c d = (Item.definition m).emit c d := by
  simp only [Item.emit, MemberHooks.method, Implementation.definitionHooks,
    Signature.constructor, Signature.normalMethod, unseen.names]
  rfl

theorem declarationItems :
    Layout.emit c d (Header.declarationItems c (d.mapAnnotations g)) =
      Layout.emit c d (Header.declarationItems c d) := by
  have members : Layout.emit c d
      (((d.mapAnnotations g).allMembers c.naming).flatMap (Header.memberItems c.options)) =
        Layout.emit c d ((d.allMembers c.naming).flatMap (Header.memberItems c.options)) := by
    simp only [TypeDecl.allMembers, d.supportMethods_mapAnnotations, List.flatMap_append,
      Layout.emit_append]
    rw [Layout.emit_body_mapAnnotations]
    intro m
    have kept : (m.mapAnnotations g).modifiers.isHidden c.options =
      m.modifiers.isHidden c.options := rfl
    simp only [Header.memberItems, kept]
    split
    · rfl
    · rw [Layout.emit_singleton, Layout.emit_singleton, unseen.declaration]
  have kind : (d.mapAnnotations g).kind = d.kind := rfl
  by_cases hk : d.kind = .annotationDecl
  · simp only [Header.declarationItems, kind, hk]
  · rwa [Header.declarationItems_of_ne hk, Header.declarationItems_of_ne (kind ▸ hk)]

theorem header_ofType (d : TypeDecl) :
    Header.ofType c (d.mapAnnotations g) = Header.ofType c d := by
  have head : Header.headItems c (d.mapAnnotations g) = Header.headItems c d := by
    simp only [Header.headItems, d.instanceFields_mapAnnotations]
    rfl
  have tail : Header.tailItems c (d.mapAnnotations g) = Header.tailItems c d := by
    simp only [Header.tailItems, Header.valuesItems, Header.trailerItems,
      Header.flatMap_functionItems, TypeDecl.setterItems, TypeDecl.staticVariables,
      d.enumConstants_mapAnnotations, d.instanceFields_mapAnnotations, d.vars_mapAnnotations,
      d.functions_mapAnnotations]
    rfl
  simp only [Header.ofType_eq_emit, Layout.emit_mapAnnotations, Header.layout, head, tail,
    Layout.emit_append, unseen.declarationItems]

theorem extensionItems :
    Layout.emit c d (Implementation.extensionItems c (d.mapAnnotations g)) =
      Layout.emit c d (Implementation.extensionItems c d) := by
  have hidden : Layout.emit c d
      ((d.mapAnnotations g).body.flatMap (Implementation.hiddenItems c.options)) =
        Layout.emit c d (d.body.flatMap (Implementation.hiddenItems c.options)) := by
    refine Layout.emit_body_mapAnnotations fun m => ?_
    have kept : (m.mapAnnotations g).modifiers.isHidden c.options =
      m.modifiers.isHidden c.options := rfl
    simp only [Implementation.hiddenItems, kept]
    split
    · rw [Layout.emit_singleton, Layout.emit_singleton, unseen.declaration]
    · rfl
  simp only [Implementation.extensionItems, TypeDecl.setterItems,
    d.hasHiddenMembers_mapAnnotations, d.instanceFields_mapAnnotations]
  split
  · simp only [Layout.emit_append, Layout.emit_cons, hidden]
  · rfl

theorem definitionItems :
    Layout.emit c d
        (((d.mapAnnotations g).allMembers c.naming).flatMap Implementation.definitionItems) =
      Layout.emit c d ((d.allMembers c.naming).flatMap Implementation.definitionItems) := by
  simp only [TypeDecl.allMembers, d.supportMethods_mapAnnotations, List.flatMap_append,
    Layout.emit_append]
  rw [Layout.emit_body_mapAnnotations]
  intro m
  rw [Implementation.definitionItems, Implementation.definitionItems, Layout.emit_singleton,
    Layout.emit_singleton, unseen.definition]

theorem implementation_ofType (d : TypeDecl) :
    Implementation.ofType c (d.mapAnnotations g) = Implementation.ofType c d := by
  have kind : (d.mapAnnotations g).kind = d.kind := rfl
  rw [Implementation.ofType_eq_emit, Implementation.ofType_eq_emit, Layout.emit_mapAnnotations]
  by_cases hk : d.kind = .annotationDecl
  · simp only [Implementation.layout, kind, hk]
  · have hk' : (d.mapAnnotations g).kind ≠ .annotationDecl := hk
    have storage : Implementation.storageItems (d.mapAnnotations g) =
        Implementation.storageItems d := by
      simp only [Implementation.storageItems, TypeDecl.storedVariables, d.vars_mapAnnotations]
      rfl
    have tail : Implementation.tailItems (d.mapAnnotations g) = Implementation.tailItems d := by
      simp only [Implementation.tailItems, Implementation.flatMap_functionItems,
        d.functions_mapAnnotations]
      rfl
    simp only [Implementation.layout_of_ne hk, Implementation.layout_of_ne hk',
      Implementation.headItems, Implementation.flatMap_prototypeItems, d.functions_mapAnnotations,
      storage, tail, Layout.emit_append, unseen.extensionItems, unseen.definitionItems]

end Unseen

end Annotations

/-! ## Units -/

namespace SourceUnit

section Units

variable {g : List Annotation → List Annotation} {o : Options}

theorem fileName_mapAnnotations (u : SourceUnit) : (u.mapAnnotations g).fileName = u.fileName := by
  simp only [fileName, mapAnnotations, List.head?_map, Option.map_map]
  rfl

theorem header_mapAnnotations (unseen : Unseen g (context o)) (u : SourceUnit) :
    (u.mapAnnotations g).header o = u.header o := by
  have types : (u.mapAnnotations g).types.map (Header.ofType (context o)) =
      u.types.map (Header.ofType (context o)) := by
    rw [mapAnnotations, List.map_map]
    exact List.map_congr_left fun d _ => unseen.header_ofType d
  simp only [header_eq, types, headerOpening, headerEnding, fileName_mapAnnotations]
  rfl

theorem implementation_mapAnnotations (unseen : Unseen g (context o)) (u : SourceUnit) :
    (u.mapAnnotations g).implementation o = u.implementation o := by
  have types : (u.mapAnnotations g).types.map (Implementation.ofType (context o)) =
      u.types.map (Implementation.ofType (context o)) := by
    rw [mapAnnotations, List.map_map]
    exact List.map_congr_left fun d _ => unseen.implementation_ofType d
  simp only [implementation_eq, types, implementationOpening, fileName_mapAnnotations]
  rfl

/-- Without marks there is nothing to see of an annotation. -/
theorem unseen_unannotated (hide : Bool) :
    Unseen (fun _ => []) (context { emitDeprecated := false, hidePrivate := hide }) where
  marks _ := rfl
  names _ := rfl

/-- Markers are seen, and no other annotation is. -/
theorem unseen_markersOnly (o : Options) :
    Unseen (fun as => as.filter fun a => a.IsMarker) (context o) where
  marks as := by
    have kept : Attribute.hasDeprecation (as.filter fun a => a.IsMarker) =
        Attribute.hasDeprecation as := by
      rw [Bool.eq_iff_iff]
      simp [Attribute.hasDeprecation, Attribute.isDeprecation_iff]
    rw [Attribute.marksDeprecated, Attribute.marksDeprecated, kept]
  names _ := rfl

end Units

end SourceUnit

end ObjcDecl
