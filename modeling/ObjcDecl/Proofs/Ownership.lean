import ObjcDecl.GeneratedFiles
import ObjcDecl.Proofs.FieldPrinting

/-!
# Who owns what a variable refers to

A weak variable does not own what it refers to. Two things are printed
accordingly: its declaration is under the qualifier `__weak`, and no
setter is registered for it. The flag is a fact about the single variable,
and the setters follow it variable by variable; the qualifier stands before
the statement and follows the first variable of it.

`OwnershipKept` says that both follow the variable itself. It holds exactly
of the places where the variables of each statement have the flag in common
(`ownershipKept_iff`). In a statement of both sorts the qualifier is wrong
for one of them: a weak variable after an owning one is declared as an
owner without the barrier of a setter, and an owning variable after a weak
one does not keep alive what it is set to.
-/

namespace ObjcDecl

namespace Field

variable {names : Naming} {f : Field}

/-- The declaration of a statement's variables without a qualifier. -/
def unqualified (names : Naming) (f : Field) : String :=
  f.sharedType names ++ " " ++ f.declarators names ++ ";"

/-- The variables of a statement are declared as weak. -/
def DeclaredWeak (names : Naming) (f : Field) : Prop :=
  f.declaration names = "__weak " ++ f.unqualified names

theorem declaration_eq (names : Naming) (f : Field) :
    f.declaration names = weakQualifier f.vars ++ f.unqualified names := by
  simp only [declaration, unqualified, String.append_assoc]

/-- The qualifier is there exactly if the first variable is weak. -/
theorem declaredWeak_iff :
    f.DeclaredWeak names ↔ f.vars.head?.any (fun x => x.binding.isWeak) = true := by
  have qualifier : f.DeclaredWeak names ↔ weakQualifier f.vars = "__weak " := by
    rw [DeclaredWeak, declaration_eq, ← String.toList_inj, String.toList_append,
      String.toList_append, List.append_cancel_right_eq, String.toList_inj]
  rw [qualifier]
  cases f.vars with
  | nil => decide
  | cons x xs => cases h : x.binding.isWeak <;> simp [weakQualifier, h]

/-- One flag for all variables of a statement is that of the qualifier. -/
theorem declaredWeak_iff_of_uniform
    (uniform : ∀ x ∈ f.vars, ∀ y ∈ f.vars, x.binding.isWeak = y.binding.isWeak) {x : Variable}
    (hx : x ∈ f.vars) : f.DeclaredWeak names ↔ x.binding.isWeak = true := by
  rw [declaredWeak_iff]
  cases first : f.vars with
  | nil => simp [first] at hx
  | cons y ys =>
    have same : x.binding.isWeak = y.binding.isWeak :=
      uniform x hx y (first ▸ List.mem_cons_self)
    rw [same]
    rfl

end Field

/-- Whether the setter of a variable is registered follows the variable's
own flag, for the references that a place declares. -/
theorem TypeDecl.mem_registered_iff_of_reference {v : FieldVisibility} {o : Options}
    {d : TypeDecl} {f : Field} (hf : f ∈ d.instanceFields v o)
    (reference : f.type.isPrimitive = false) {x : Variable} (hx : x ∈ f.vars) :
    (f, x) ∈ d.registered v o ↔ x.binding.isWeak = false := by
  obtain ⟨member, selected⟩ := List.mem_filter.mp hf
  rw [mem_registered_iff]
  constructor
  · rintro ⟨-, -, qualifies⟩
    exact qualifies.owning
  · intro owning
    exact ⟨member, hx, registered_iff.mpr ⟨selected, reference, owning⟩⟩

/-- The declarations and the setters of a place keep to the ownership of
each variable: a variable is declared as weak if it is weak, and a
reference has a setter unless it is declared as weak. -/
structure OwnershipKept (names : Naming) (v : FieldVisibility) (o : Options) (d : TypeDecl) :
    Prop where
  declared : ∀ f ∈ d.instanceFields v o, ∀ x ∈ f.vars,
    (f.DeclaredWeak names ↔ x.binding.isWeak = true)
  registered : ∀ f ∈ d.instanceFields v o, f.type.isPrimitive = false → ∀ x ∈ f.vars,
    ((f, x) ∈ d.registered v o ↔ ¬ f.DeclaredWeak names)

/-- What a place prints of its variables is the declarations of its
statements and the registrations of those variables that qualify. The
qualifier of a declaration follows the first variable, a registration the
variable itself, so ownership is kept exactly if no statement has both weak
and owning variables. -/
theorem ownershipKept_iff (w : Writer) (d : TypeDecl) (v : FieldVisibility) :
    (∀ added, w.Adds (.instanceVariables d v) added ↔
      (∀ f ∈ d.instanceFields v w.context.options, f.vars ≠ []) ∧
        added = w.variablesText (d.instanceFields v w.context.options)) ∧
    w.Adds (.fieldSetters d v)
      (d.registrationsText w.context.naming (d.registered v w.context.options)) ∧
    (∀ f : Field, f.declaration w.context.naming =
      (if f.vars.head?.any (fun x => x.binding.isWeak) then "__weak " else "") ++
        f.unqualified w.context.naming) ∧
    (∀ f ∈ d.instanceFields v w.context.options, f.type.isPrimitive = false → ∀ x ∈ f.vars,
      ((f, x) ∈ d.registered v w.context.options ↔ x.binding.isWeak = false)) ∧
    (OwnershipKept w.context.naming v w.context.options d ↔
      ∀ f ∈ d.instanceFields v w.context.options, ∀ x ∈ f.vars, ∀ y ∈ f.vars,
        x.binding.isWeak = y.binding.isWeak) := by
  refine ⟨fun _ => Writer.adds_instanceVariables_iff, ?_, fun f => ?_,
    fun f hf reference x hx => ?_, ?_, ?_⟩
  · rw [← Writer.render_fieldSetters]
    exact Writer.adds_of_block rfl
  · rw [Field.declaration_eq]
    cases f.vars <;> rfl
  · exact TypeDecl.mem_registered_iff_of_reference hf reference hx
  · -- two variables of a statement are under the same qualifier
    intro kept f hf x hx y hy
    rw [Bool.eq_iff_iff, ← kept.declared f hf x hx, ← kept.declared f hf y hy]
  · intro uniform
    have declared : ∀ f ∈ d.instanceFields v w.context.options, ∀ x ∈ f.vars,
        (f.DeclaredWeak w.context.naming ↔ x.binding.isWeak = true) :=
      fun f hf x hx => Field.declaredWeak_iff_of_uniform (uniform f hf) hx
    refine ⟨declared, fun f hf reference x hx => ?_⟩
    rw [TypeDecl.mem_registered_iff_of_reference hf reference hx, declared f hf x hx,
      Bool.not_eq_true]

/-- A reference to a child and a weak one to a parent, in one statement. -/
def nodeLinks : Field :=
  { type := .ofClass "Node", vars := [⟨"child", {}⟩, ⟨"parent", { isWeak := true }⟩] }

/-- A class with these two references. -/
def node : TypeDecl :=
  { kind := .classDecl, type := .ofClass "Node", body := [.field nodeLinks] }

/-- The reference to the parent is declared as an owner. -/
theorem not_ownershipKept_node : ¬ OwnershipKept .prefixed .nonPrivate {} node := by
  intro kept
  have printed : nodeLinks ∈ node.instanceFields .nonPrivate {} := List.mem_singleton.mpr rfl
  have weak : nodeLinks.DeclaredWeak .prefixed :=
    (kept.declared nodeLinks printed ⟨"parent", { isWeak := true }⟩ (by decide)).mpr rfl
  exact absurd (Field.declaredWeak_iff.mp weak) (by decide)

end ObjcDecl
