import ObjcDecl.Proofs.Layout
import ObjcDecl.Proofs.Pieces

/-!
# What is printed of field statements

Two printers go through the field statements of a type. One declares the
instance variables of a place under a heading, the other registers the
setters of the place after a blank line; each skips statements on its own
conditions, and the second one skips variables within a statement as well.
Both have to remember over all their loops whether anything was printed
yet, as the heading and the blank line come once.

Here are their texts in closed form: that of the variables over the
statements of the place (`adds_instanceVariables_iff`), and that of the
setters over all variables of the type that qualify (`setters_registered`).
-/

namespace ObjcDecl

/-! ## Instance variables -/

/-- The lines of a statement: its comment, and its variables in one
declaration. -/
def Field.lines (c : Context) (f : Field) : Block :=
  DocComment.block c.detect f.doc ++ [.nested 0 (f.declaration c.naming)]

namespace Writer

/-- The text of a statement, one level deeper than the writer is. -/
def statementText (w : Writer) (f : Field) : String :=
  (DocComment.block w.context.detect f.doc).render w.sink.unit (w.sink.level + 1) ++
    margin w.sink.unit (w.sink.level + 1) ++ f.declaration w.context.naming ++ "\n"

/-- The text of some statements under their heading. -/
def variablesText (w : Writer) : List Field → String
  | [] => ""
  | f :: fs => " @public\n" ++ String.join ((f :: fs).map w.statementText)

end Writer

namespace Block

variable (unit : String) (level : Nat)

theorem render_cons (l : Line) (b : Block) :
    render unit level (l :: b) = l.render unit level ++ render unit level b := by
  simp [render]

theorem render_flatMap {α : Type} (g : α → Block) (l : List α) :
    render unit level (l.flatMap g) = String.join (l.map fun x => render unit level (g x)) := by
  induction l with
  | nil => rfl
  | cons x l ih => rw [List.flatMap_cons, render_append, ih, List.map_cons, String.join_cons]

end Block

/-- A statement is printed if it declares a variable. -/
theorem Field.block_eq_ok_iff {c : Context} {owner : TypeRef} {f : Field} {b : Block} :
    f.block c owner = .ok b ↔ f.vars ≠ [] ∧ b = f.lines c := by
  unfold block lines
  cases f.vars with
  | nil => simp
  | cons x xs => simp [eq_comm]

theorem TypeDecl.instanceVariables_eq_ok_iff {c : Context} {v : FieldVisibility} {d : TypeDecl}
    {b : Block} :
    d.instanceVariables c v = .ok b ↔ (∀ f ∈ d.instanceFields v c.options, f.vars ≠ []) ∧
      b = headed (.flush " @public")
        (Block.deepen 1 ((d.instanceFields v c.options).flatMap (Field.lines c))) := by
  have statements {x : Block} :
      Block.sequence ((d.instanceFields v c.options).map (Field.block c d.type)) = .ok x ↔
        (∀ f ∈ d.instanceFields v c.options, f.vars ≠ []) ∧
          x = (d.instanceFields v c.options).flatMap (Field.lines c) :=
    Block.sequence_map_eq_ok_iff fun _ _ => Field.block_eq_ok_iff
  constructor
  · intro h
    obtain ⟨x, hx, h⟩ := Emission.bind_eq_ok.mp h
    obtain ⟨some, rfl⟩ := statements.mp hx
    cases h
    exact ⟨some, rfl⟩
  · rintro ⟨some, rfl⟩
    rw [instanceVariables, statements.mpr ⟨some, rfl⟩]
    rfl

/-- Statements have lines, so they are printed under their heading. -/
theorem TypeDecl.headed_statements (c : Context) (f : Field) (fs : List Field) :
    headed (.flush " @public") (Block.deepen 1 ((f :: fs).flatMap (Field.lines c))) =
      .flush " @public" :: Block.deepen 1 ((f :: fs).flatMap (Field.lines c)) := by
  refine headed_of_ne_nil _ ?_
  simp [Block.deepen, Field.lines]

/-- The lines of some statements under their heading have the text of the
statements. -/
theorem Writer.render_statements (w : Writer) (fs : List Field) :
    Block.render w.sink.unit w.sink.level (TypeDecl.headed (.flush " @public")
      (Block.deepen 1 (fs.flatMap (Field.lines w.context)))) = w.variablesText fs := by
  have each (f : Field) :
      Block.render w.sink.unit w.sink.level (Block.deepen 1 (f.lines w.context)) =
        w.statementText f := by
    rw [Block.render_deepen, Field.lines, Block.render_append]
    simp [statementText, Block.render, Line.render, String.append_assoc]
  cases fs with
  | nil => rfl
  | cons f fs =>
    have heading : Line.render w.sink.unit w.sink.level (.flush " @public") = " @public\n" := rfl
    rw [TypeDecl.headed_statements, Block.render_cons, heading, variablesText,
      Block.render_deepen, Block.render_flatMap]
    simp only [← Block.render_deepen, each]

/-- The variables of a place are printed exactly if every statement of the
place has one, and then the statements are printed in order, under one
heading. -/
theorem Writer.adds_instanceVariables_iff {w : Writer} {d : TypeDecl} {v : FieldVisibility}
    {added : String} :
    w.Adds (.instanceVariables d v) added ↔
      (∀ f ∈ d.instanceFields v w.context.options, f.vars ≠ []) ∧
        added = w.variablesText (d.instanceFields v w.context.options) := by
  rw [adds_iff]
  constructor
  · rintro ⟨b, hb, rfl⟩
    obtain ⟨some, rfl⟩ := TypeDecl.instanceVariables_eq_ok_iff.mp hb
    exact ⟨some, w.render_statements _⟩
  · rintro ⟨some, rfl⟩
    exact ⟨_, TypeDecl.instanceVariables_eq_ok_iff.mpr ⟨some, rfl⟩, (w.render_statements _).symm⟩

/-! ## Setters -/

/-- Whether fields with these modifiers belong to a place: private and
synthetic ones to the class extension, the others to the header, and all of
them to the header while private members are not hidden. -/
def FieldVisibility.Takes (o : Options) (ms : Modifiers) : FieldVisibility → Prop
  | .privateOnly => ms.isPrivate = true ∨ ms.isSynthetic = true
  | .nonPrivate => o.hidePrivate = false ∨ ms.isPrivate = false ∧ ms.isSynthetic = false

theorem FieldVisibility.includes_iff {v : FieldVisibility} {ms : Modifiers} {o : Options} :
    v.includes ms o = true ↔ v.Takes o ms := by
  unfold includes Modifiers.isPrivateOrSynthetic
  cases v with
  | privateOnly => simp [Takes]
  | nonPrivate =>
    have other : (nonPrivate == privateOnly) = false := rfl
    simp [Takes, other]

/-- A variable whose setter is registered in a place. -/
structure Registered (v : FieldVisibility) (o : Options) (p : Field × Variable) : Prop where
  onInstance : p.1.isStatic = false
  reference : p.1.type.isPrimitive = false
  placed : v.Takes o p.1.modifiers
  owning : p.2.binding.isWeak = false

theorem registered_iff {v : FieldVisibility} {o : Options} {p : Field × Variable} :
    Registered v o p ↔ p.1.isInstanceFieldOf v o = true ∧ p.1.type.isPrimitive = false ∧
      p.2.binding.isWeak = false := by
  rw [Field.isInstanceFieldOf, Bool.and_eq_true, Bool.not_eq_true', FieldVisibility.includes_iff]
  constructor
  · exact fun h => ⟨⟨h.onInstance, h.placed⟩, h.reference, h.owning⟩
  · rintro ⟨⟨onInstance, placed⟩, reference, owning⟩
    exact ⟨onInstance, reference, placed, owning⟩

instance (v : FieldVisibility) (o : Options) : DecidablePred (Registered v o) :=
  fun _ => decidable_of_iff' _ registered_iff

namespace TypeDecl

/-- The variables whose setters are registered in a place, in the order of
the body. -/
def registered (v : FieldVisibility) (o : Options) (d : TypeDecl) : List (Field × Variable) :=
  (d.body.flatMap Member.variables).filter fun p => Registered v o p

/-- The registration of a variable's setter. -/
def registration (names : Naming) (d : TypeDecl) (p : Field × Variable) : String :=
  "J2OBJC_FIELD_SETTER(" ++ names.fullName d.type ++ ", " ++ names.fieldName p.2.name ++ ", " ++
    names.typeText p.1.type ++ ")"

/-- One line for each variable, after one blank line. -/
def registrationsText (names : Naming) (d : TypeDecl) : List (Field × Variable) → String
  | [] => ""
  | p :: ps => "\n" ++ String.join ((p :: ps).map fun q => d.registration names q ++ "\n")

/-- The variables that qualify are found statement by statement. -/
theorem mem_registered_iff {v : FieldVisibility} {o : Options} {d : TypeDecl} {f : Field}
    {x : Variable} :
    (f, x) ∈ d.registered v o ↔ f ∈ d.fields ∧ x ∈ f.vars ∧ Registered v o (f, x) := by
  rw [registered, ← vars_eq_flatMap_body]
  simp [vars, and_assoc]

/-- The setters of a statement of the place are those of its variables that
qualify. -/
theorem map_registration_vars (names : Naming) (v : FieldVisibility) (o : Options) (d : TypeDecl)
    (f : Field) :
    ((f.vars.map fun x => (f, x)).filter fun p => Registered v o p).map
        (fun p => Line.flush (d.registration names p)) =
      if f.isInstanceFieldOf v o then f.setters names d.type else [] := by
  have qualifies : (fun p => decide (Registered v o p)) ∘ (fun x => (f, x)) =
      fun x => f.isInstanceFieldOf v o && !f.type.isPrimitive && !x.binding.isWeak := by
    funext x
    rw [Bool.eq_iff_iff]
    simp only [Function.comp_apply, decide_eq_true_eq, registered_iff, Bool.and_eq_true,
      Bool.not_eq_true', and_assoc]
  rw [List.filter_map, List.map_map, qualifies, Field.setters]
  cases f.isInstanceFieldOf v o with
  | false => simp
  | true =>
    cases f.type.isPrimitive with
    | true => simp
    | false => rfl

/-- The two loops, over statements and over the variables of each, come to
the variables that qualify. -/
theorem flatMap_setters (names : Naming) (v : FieldVisibility) (o : Options) (d : TypeDecl) :
    (d.instanceFields v o).flatMap (Field.setters names d.type) =
      (d.registered v o).map fun p => .flush (d.registration names p) := by
  rw [registered, ← vars_eq_flatMap_body]
  unfold instanceFields vars
  induction d.fields with
  | nil => rfl
  | cons f fs ih =>
    rw [List.flatMap_cons, List.filter_append, List.map_append, map_registration_vars, ← ih,
      List.filter_cons]
    cases f.isInstanceFieldOf v o <;> rfl

end TypeDecl

/-- The lines of the setters have the text of the registrations. -/
theorem Writer.render_fieldSetters (w : Writer) (d : TypeDecl) (v : FieldVisibility) :
    Block.render w.sink.unit w.sink.level (d.fieldSetters w.context v) =
      d.registrationsText w.context.naming (d.registered v w.context.options) := by
  rw [TypeDecl.fieldSetters, TypeDecl.flatMap_setters]
  cases d.registered v w.context.options with
  | nil => rfl
  | cons p ps =>
    have blank : Line.blank.render w.sink.unit w.sink.level = "\n" := rfl
    have lines : Block.render w.sink.unit w.sink.level
        ((p :: ps).map fun q => .flush (d.registration w.context.naming q)) =
        String.join ((p :: ps).map fun q => d.registration w.context.naming q ++ "\n") := by
      rw [Block.render, List.map_map]
      rfl
    rw [TypeDecl.registrationsText, ← lines, ← blank]
    exact Block.render_cons ..

/-- The setters of a place are those of the variables that qualify, one
line each in the order of the body, after one blank line; nothing is added
where no variable qualifies. -/
theorem setters_registered (w : Writer) (d : TypeDecl) (v : FieldVisibility) :
    w.Adds (.fieldSetters d v)
      (d.registrationsText w.context.naming (d.registered v w.context.options)) := by
  rw [← Writer.render_fieldSetters]
  exact Writer.adds_of_block rfl

end ObjcDecl
