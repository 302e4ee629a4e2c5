import ObjcDecl.GeneratedFiles
import ObjcDecl.Proofs.Layout.Parts

/-!
# Where instance variables are declared

The instance variables of a class or enum are declared in two blocks, one
in the header's interface and one in the class extension of the
implementation. Which statements go where is decided in four places (the
head of the interface, the guard of the extension, its head, and the
setters after either), each from the place, the switch for private
members and the modifiers of the statement.

`DeclaredOnce` is what a reader of both files relies on: together they
declare every statement once, and a setter is registered in the file that
declares its variable. It holds exactly where private members are hidden
or there are none (`declaredOnce_iff`). With private members shown, the
header has all statements and the extension repeats the private ones.
-/

namespace ObjcDecl

/-- Whether a statement declares any variable. -/
def Field.hasVariables (f : Field) : Bool := !f.vars.isEmpty

/-- The statement that a member is, if it declares instance variables. -/
def Member.instanceStatement : Member → Option Field
  | .field f => if !f.isStatic && f.hasVariables then some f else none
  | _ => none

/-- The statements of a body that declare instance variables. -/
def TypeDecl.instanceStatements (d : TypeDecl) : List Field :=
  d.body.filterMap Member.instanceStatement

/-- The setters of a statement, one for every variable that owns an
object. -/
def Field.setterItems (f : Field) : Layout := f.ownedVariables.map (.setter f)

/-- The statements whose instance variables an item declares. -/
def Item.statements : Item → List Field
  | .interfaceHead _ fs | .extensionHead fs => fs.filter Field.hasVariables
  | _ => []

/-- The statements whose instance variables a layout declares. -/
def Layout.statements (l : Layout) : List Field := l.flatMap Item.statements

/-- Two files declare the instance variables of a type once: a statement
stands in one of the blocks of the two files and no statement stands there
twice, and each file registers the setters of the variables it declares,
once each and no others. -/
structure DeclaredOnce (d : TypeDecl) (header implementation : Layout) : Prop where
  declared : (header.statements ++ implementation.statements).Perm d.instanceStatements
  headerSetters : header.part .setter = header.statements.flatMap Field.setterItems
  implementationSetters :
    implementation.part .setter = implementation.statements.flatMap Field.setterItems

/-! ## What the two places include -/

/-- The header's place includes what is not hidden. -/
theorem FieldVisibility.includes_nonPrivate (ms : Modifiers) (o : Options) :
    FieldVisibility.nonPrivate.includes ms o = !ms.isHidden o := by
  unfold FieldVisibility.includes Modifiers.isHidden
  cases o.hidePrivate <;> cases ms.isPrivateOrSynthetic <;> rfl

/-- The extension's place includes what is private or synthetic, whether
private members are hidden or not. -/
theorem FieldVisibility.includes_privateOnly (ms : Modifiers) (o : Options) :
    FieldVisibility.privateOnly.includes ms o = ms.isPrivateOrSynthetic := by
  unfold FieldVisibility.includes
  cases o.hidePrivate <;> cases ms.isPrivateOrSynthetic <;> rfl

namespace TypeDecl

variable {d : TypeDecl}

theorem instanceStatements_eq_filter (d : TypeDecl) :
    d.instanceStatements = d.fields.filter fun f => !f.isStatic && f.hasVariables := by
  rw [instanceStatements, fields, List.filter_filterMap]
  refine congrArg (d.body.filterMap ·) (funext fun x => ?_)
  cases x with
  | field f => rw [Member.instanceStatement, Option.filter_some]
  | _ => rfl

/-- The place selects among the statements that declare variables. -/
theorem filter_instanceFields (v : FieldVisibility) (o : Options) (d : TypeDecl) :
    (d.instanceFields v o).filter Field.hasVariables =
      d.instanceStatements.filter fun f => v.includes f.modifiers o := by
  rw [instanceFields, instanceStatements_eq_filter, List.filter_filter, List.filter_filter]
  refine List.filter_congr fun f _ => ?_
  rw [Field.isInstanceFieldOf]
  cases f.hasVariables <;> cases f.isStatic <;> cases v.includes f.modifiers o <;> rfl

/-- A statement without variables has no setters. -/
theorem setterItems_eq_flatMap (v : FieldVisibility) (o : Options) (d : TypeDecl) :
    d.setterItems v o =
      ((d.instanceFields v o).filter Field.hasVariables).flatMap Field.setterItems := by
  unfold setterItems
  induction d.instanceFields v o with
  | nil => rfl
  | cons f fs ih =>
    rw [List.flatMap_cons, ih]
    cases h : f.hasVariables with
    | true => rw [List.filter_cons_of_pos h, List.flatMap_cons, Field.setterItems]
    | false =>
      have none : f.vars = [] := by simpa [Field.hasVariables] using h
      rw [List.filter_cons_of_neg (by simp [h])]
      simp [Field.ownedVariables, none]

end TypeDecl

/-! ## What the two files declare -/

/-- Only heads declare instance variables. -/
theorem Layout.statements_eq_flatMap_part (l : Layout) :
    l.statements = (l.part .variables).flatMap Item.statements := by
  induction l with
  | nil => rfl
  | cons i l ih =>
    rw [statements, List.flatMap_cons, ← statements, ih, part_cons]
    cases i <;> rfl

variable {c : Context} {d : TypeDecl}

theorem Header.statements_layout (hk : d.kind ≠ .annotationDecl) :
    (layout c d).statements =
      (d.instanceFields .nonPrivate c.options).filter Field.hasVariables := by
  obtain ⟨superclass, h⟩ := part_variables (c := c) hk
  rw [Layout.statements_eq_flatMap_part, h]
  exact List.append_nil _

/-- The header declares the statements that are not hidden. -/
theorem Header.statements_eq_filter (hk : d.kind ≠ .annotationDecl) :
    (layout c d).statements =
      d.instanceStatements.filter fun f => !f.modifiers.isHidden c.options := by
  rw [statements_layout hk, TypeDecl.filter_instanceFields]
  simp only [FieldVisibility.includes_nonPrivate]

theorem Implementation.statements_layout (hk : d.kind ≠ .annotationDecl) :
    (layout c d).statements =
      (d.instanceFields .privateOnly c.options).filter Field.hasVariables := by
  rw [Layout.statements_eq_flatMap_part, part_variables hk]
  split
  · exact List.append_nil _
  · rw [instanceFields_privateOnly_eq_nil ‹_›]
    rfl

/-- The class extension declares the statements that are private or
synthetic. -/
theorem Implementation.statements_eq_filter (hk : d.kind ≠ .annotationDecl) :
    (layout c d).statements =
      d.instanceStatements.filter fun f => f.modifiers.isPrivateOrSynthetic := by
  rw [statements_layout hk, TypeDecl.filter_instanceFields]
  simp only [FieldVisibility.includes_privateOnly]

/-- What the two files declare between them: every instance statement, and
the private ones once more unless they are hidden. -/
theorem declared_perm (c : Context) (hk : d.kind ≠ .annotationDecl) :
    ((Header.layout c d).statements ++ (Implementation.layout c d).statements).Perm
      (d.instanceStatements ++ if c.options.hidePrivate then [] else
        d.instanceStatements.filter fun f => f.modifiers.isPrivateOrSynthetic) := by
  rw [Header.statements_eq_filter hk, Implementation.statements_eq_filter hk]
  unfold Modifiers.isHidden
  cases c.options.hidePrivate with
  | true =>
    have split := List.filter_append_perm (fun f : Field => f.modifiers.isPrivateOrSynthetic)
      d.instanceStatements
    simpa only [Bool.true_and, if_true, List.append_nil] using List.perm_append_comm.trans split
  | false =>
    have all : d.instanceStatements.filter (fun _ => !false) = d.instanceStatements :=
      List.filter_eq_self.mpr fun _ _ => rfl
    simp only [Bool.false_and, all, Bool.false_eq_true, if_false]
    exact List.Perm.refl _

/-- Each file registers the setters of the variables it declares. -/
theorem Header.setters_layout (hk : d.kind ≠ .annotationDecl) :
    (layout c d).part .setter = (layout c d).statements.flatMap Field.setterItems := by
  rw [part_setter, statements_layout hk, TypeDecl.setterItems_eq_flatMap]

theorem Implementation.setters_layout (hk : d.kind ≠ .annotationDecl) :
    (layout c d).part .setter = (layout c d).statements.flatMap Field.setterItems := by
  rw [part_setter hk, statements_layout hk, TypeDecl.setterItems_eq_flatMap]

/-- The two files of a class or enum are the texts of two layouts. The
header declares the instance statements that are not hidden, the class
extension those that are private or synthetic, in the order of the body,
and each file registers the setters of what it declares. So the instance
variables are declared once over the two files exactly if private members
are hidden or no instance statement is private. -/
theorem declaredOnce_iff (c : Context) (d : TypeDecl) (hk : d.kind ≠ .annotationDecl) :
    Header.ofType c d = Layout.emit c d (Header.layout c d) ∧
    Implementation.ofType c d = Layout.emit c d (Implementation.layout c d) ∧
    (Header.layout c d).statements =
      d.instanceStatements.filter (fun f => !f.modifiers.isHidden c.options) ∧
    (Implementation.layout c d).statements =
      d.instanceStatements.filter (fun f => f.modifiers.isPrivateOrSynthetic) ∧
    (Header.layout c d).part .setter =
      (Header.layout c d).statements.flatMap Field.setterItems ∧
    (Implementation.layout c d).part .setter =
      (Implementation.layout c d).statements.flatMap Field.setterItems ∧
    (DeclaredOnce d (Header.layout c d) (Implementation.layout c d) ↔
      c.options.hidePrivate = true ∨
        ∀ f ∈ d.instanceStatements, f.modifiers.isPrivateOrSynthetic = false) := by
  refine ⟨Header.ofType_eq_emit c d, Implementation.ofType_eq_emit c d,
    Header.statements_eq_filter hk, Implementation.statements_eq_filter hk,
    Header.setters_layout hk, Implementation.setters_layout hk, ?_, ?_⟩
  · -- the lengths alone tell whether a statement is declared twice
    intro once
    have length := ((declared_perm c hk).symm.trans once.declared).length_eq
    cases hide : c.options.hidePrivate with
    | true => exact .inl rfl
    | false =>
      right
      simpa [hide] using length
  · intro hidden
    refine ⟨(declared_perm c hk).trans ?_, Header.setters_layout hk,
      Implementation.setters_layout hk⟩
    rcases hidden with hide | none
    · rw [if_pos hide, List.append_nil]
    · have empty : d.instanceStatements.filter (fun f => f.modifiers.isPrivateOrSynthetic) = [] :=
        List.filter_eq_nil_iff.mpr fun f hf => by simp [none f hf]
      rw [empty, ite_self, List.append_nil]

/-- A class with one private field. -/
def bag : TypeDecl :=
  { kind := .classDecl
    type := .ofClass "Bag"
    body := [.field { modifiers := ⟨[.privateAccess]⟩, type := .string, vars := [⟨"label", {}⟩] }] }

/-- With private members hidden, the class extension alone declares the
field. -/
theorem declaredOnce_bag :
    bag.kind ≠ .annotationDecl ∧
    DeclaredOnce bag (Header.layout (SourceUnit.context { hidePrivate := true }) bag)
      (Implementation.layout (SourceUnit.context { hidePrivate := true }) bag) := by
  have hk : bag.kind ≠ .annotationDecl := by decide
  exact ⟨hk, (declaredOnce_iff _ bag hk).2.2.2.2.2.2.mpr (.inl rfl)⟩

/-- With private members shown, both files declare the field. -/
theorem not_declaredOnce_bag :
    ¬ DeclaredOnce bag (Header.layout (SourceUnit.context {}) bag)
      (Implementation.layout (SourceUnit.context {}) bag) := by
  intro once
  exact absurd once.declared.length_eq (by decide)

end ObjcDecl
