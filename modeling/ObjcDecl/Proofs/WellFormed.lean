import ObjcDecl.Proofs.DeclaredSelector
import ObjcDecl.Proofs.Visit.Files

/-!
# Well-formed units are never refused

Generation stops where a tree breaks a promise: a field statement without
variables, a selector that does not fit its method, a constructor that is
not named as one. `SourceUnit.WellFormed` is these promises, and whoever
keeps them has both files (`exists_files_of_wellFormed`). The other ways to stop are
out of reach for any tree: the region without warnings is opened and
closed in turn, and a method is never declared as what it is not, since
its hook is chosen by its kind.

What can stop is the signature of a method and the statement of a field;
everything else only puts their blocks together.
-/

namespace ObjcDecl

/-! ## Units that keep their promises -/

/-- A type declaration with variables in every field statement and well-formed
methods. -/
structure TypeDecl.WellFormed (d : TypeDecl) : Prop where
  type : d.type.ColonFree
  fields : ∀ f ∈ d.fields, f.vars ≠ []
  methods : ∀ m, .method m ∈ d.body → m.WellFormed

/-- A unit of well-formed types. -/
def SourceUnit.WellFormed (u : SourceUnit) : Prop := ∀ d ∈ u.types, d.WellFormed

/-! ## Sequences -/

/-- Blocks that can all be printed can be printed in sequence. -/
theorem Block.exists_sequence {es : List Emission} (h : ∀ e ∈ es, ∃ b, e = .ok b) :
    ∃ b, sequence es = .ok b := by
  induction es with
  | nil => exact ⟨[], rfl⟩
  | cons e es ih =>
    obtain ⟨b, rfl⟩ := h e List.mem_cons_self
    obtain ⟨bs, hbs⟩ := ih fun e he => h e (List.mem_cons_of_mem _ he)
    exact ⟨b ++ bs, by simp [sequence_cons, hbs]⟩

theorem Block.exists_sequence_map {α : Type} {xs : List α} {e : α → Emission}
    (h : ∀ x ∈ xs, ∃ b, e x = .ok b) : ∃ b, sequence (xs.map e) = .ok b :=
  exists_sequence fun _ he => by
    obtain ⟨x, hx, rfl⟩ := List.mem_map.mp he
    exact h x hx

/-! ## Signatures -/

namespace Signature

variable {m : Method} (h : m.WellFormed)
include h

theorem exists_normalMethod (kind : m.isConstructor = false) :
    ∃ t, normalMethod Naming.prefixed m = .ok t := by
  rw [normalMethod, if_neg (by simp [kind])]
  exact exists_method _ (Naming.Prefixed.fits_selector h)

theorem exists_constructor (kind : m.isConstructor = true) (isInner : Bool) :
    ∃ t, constructor Naming.prefixed m isInner = .ok t := by
  have fits := Naming.Prefixed.fits_selector h
  rw [constructor, if_pos kind]
  cases isInner with
  | false => exact exists_method _ fits
  | true =>
    obtain ⟨s, hs, inner⟩ := Selector.exists_inner fits (Naming.Prefixed.initHead_selector h kind)
      (Naming.Prefixed.colonFree_fullName h.owner.name)
    have selector : Selector.inner (Naming.prefixed.selector m) (Naming.prefixed.fullName m.owner) =
      .ok s := hs
    rw [if_pos rfl, selector]
    exact exists_method _ inner

end Signature

/-! ## Members -/

/-- Hooks that print every well-formed member. -/
structure HooksSucceed (hooks : MemberHooks Emission) : Prop where
  normalMethod : ∀ m : Method, m.WellFormed → m.isConstructor = false →
    ∃ b, hooks.normalMethod m = .ok b
  constructor : ∀ m : Method, m.WellFormed → m.isConstructor = true →
    ∃ b, hooks.constructor m = .ok b
  function : ∀ f, ∃ b, hooks.function f = .ok b
  native : ∀ n, ∃ b, hooks.native n = .ok b

namespace HooksSucceed

variable {hooks : MemberHooks Emission} (h : HooksSucceed hooks)
include h

/-- The kind of a method chooses its hook. -/
theorem method {m : Method} (wf : m.WellFormed) : ∃ b, hooks.method m = .ok b := by
  unfold MemberHooks.method
  cases kind : m.isConstructor with
  | true => exact h.constructor m wf kind
  | false => exact h.normalMethod m wf kind

theorem methods {ms : List Method} (wf : ∀ m ∈ ms, m.WellFormed) :
    ∃ b, Block.sequence (ms.map hooks.method) = .ok b :=
  Block.exists_sequence_map fun m hm => h.method (wf m hm)

theorem declarations {body : List Member} (wf : ∀ m, .method m ∈ body → m.WellFormed) :
    ∃ b, Block.sequence (hooks.declarations body) = .ok b := by
  refine Block.exists_sequence fun e he => ?_
  obtain ⟨x, hx, hxe⟩ := List.mem_filterMap.mp he
  cases x with
  | method m =>
    cases hxe
    exact h.method (wf m hx)
  | native n =>
    cases hxe
    exact h.native n
  | _ => cases hxe

theorem functions (body : List Member) : ∃ b, Block.sequence (hooks.functions body) = .ok b := by
  refine Block.exists_sequence fun e he => ?_
  obtain ⟨x, -, hxe⟩ := List.mem_filterMap.mp he
  cases x with
  | function f =>
    cases hxe
    exact h.function f
  | _ => cases hxe

end HooksSucceed

section Context

variable (o : Options)

theorem Method.exists_normalDeclaration {m : Method} (h : m.WellFormed)
    (kind : m.isConstructor = false) : ∃ b, m.normalDeclaration (SourceUnit.context o) = .ok b := by
  obtain ⟨t, ht⟩ := Signature.exists_normalMethod h kind
  exact ⟨_, by rw [normalDeclaration, SourceUnit.context, ht]; rfl⟩

theorem Method.exists_constructorDeclaration {m : Method} (h : m.WellFormed)
    (kind : m.isConstructor = true) (isInner : Bool) :
    ∃ b, m.constructorDeclaration (SourceUnit.context o) isInner = .ok b := by
  obtain ⟨t, ht⟩ := Signature.exists_constructor h kind isInner
  exact ⟨_, by rw [constructorDeclaration, SourceUnit.context, ht]; rfl⟩

theorem Header.hooksSucceed_memberHooks (isInner : Bool) :
    HooksSucceed (memberHooks (SourceUnit.context o) isInner) where
  normalMethod m h kind := by
    simp only [memberHooks]
    split
    · exact ⟨_, rfl⟩
    · exact m.exists_normalDeclaration o h kind
  constructor m h kind := by
    simp only [memberHooks]
    split
    · exact ⟨_, rfl⟩
    · exact m.exists_constructorDeclaration o h kind isInner
  function _ := ⟨_, rfl⟩
  native _ := ⟨_, rfl⟩

theorem Implementation.hooksSucceed_extensionHooks (isInner : Bool) :
    HooksSucceed (extensionHooks (SourceUnit.context o) isInner) where
  normalMethod m h kind := by
    simp only [extensionHooks]
    split
    · exact m.exists_normalDeclaration o h kind
    · exact ⟨_, rfl⟩
  constructor m h kind := by
    simp only [extensionHooks]
    split
    · exact m.exists_constructorDeclaration o h kind isInner
    · exact ⟨_, rfl⟩
  function _ := ⟨_, rfl⟩
  native _ := ⟨_, rfl⟩

theorem Implementation.hooksSucceed_definitionHooks (isInner : Bool) :
    HooksSucceed (definitionHooks (SourceUnit.context o) isInner) where
  normalMethod m h kind := by
    obtain ⟨t, ht⟩ := Signature.exists_normalMethod h kind
    simp [definitionHooks, SourceUnit.context, ht]
  constructor m h kind := by
    obtain ⟨t, ht⟩ := Signature.exists_constructor h kind isInner
    simp [definitionHooks, SourceUnit.context, ht]
  function _ := ⟨_, rfl⟩
  native _ := ⟨_, rfl⟩

end Context

/-! ## Types -/

namespace TypeDecl

variable {d : TypeDecl} (h : d.WellFormed)
include h

theorem WellFormed.exists_instanceVariables (c : Context) (v : FieldVisibility) :
    ∃ b, d.instanceVariables c v = .ok b := by
  have statements : ∃ b, Block.sequence ((d.instanceFields v c.options).map (Field.block c d.type)) =
      .ok b := by
    refine Block.exists_sequence_map fun f hf => ?_
    have vars : f.vars.isEmpty = false := by
      simpa using h.fields f (List.mem_filter.mp hf).1
    exact ⟨_, by rw [Field.block, vars]; rfl⟩
  obtain ⟨b, hb⟩ := statements
  exact ⟨_, by rw [instanceVariables, hb]; rfl⟩

/-- The methods that every enum provides have selectors that fit. -/
theorem WellFormed.enumSupport (names : Naming) : ∀ m ∈ d.enumSupport names, m.WellFormed := by
  have values : (d.valuesMethod names).WellFormed :=
    { owner := h.type
      parameters := by simp [valuesMethod]
      name := fun _ _ => by simp only [valuesMethod]; decide
      selector := by simp [valuesMethod]
      head := by simp [valuesMethod] }
  have string : TypeRef.string.ColonFree := by decide
  have valueOf : (d.valueOfMethod names).WellFormed :=
    { owner := h.type
      parameters := by simpa [valueOfMethod] using string
      name := fun _ _ => by simp only [valueOfMethod]; decide
      selector := by simp [valueOfMethod]
      head := by simp [valueOfMethod] }
  intro m hm
  rcases List.mem_cons.mp hm with rfl | hm
  · exact values
  · obtain rfl := List.mem_singleton.mp hm
    exact valueOf

end TypeDecl

section Types

variable (o : Options) {d : TypeDecl}

namespace Header

theorem exists_interface (h : d.WellFormed) (superclass : String) :
    ∃ b, interface (SourceUnit.context o) d superclass = .ok b := by
  obtain ⟨ivars, hivars⟩ := h.exists_instanceVariables (SourceUnit.context o) .nonPrivate
  simp [interface, hivars]

theorem exists_trailer (hasInitialize : Bool) :
    ∃ b, trailer (SourceUnit.context o) d hasInitialize = .ok b := by
  obtain ⟨functions, hfunctions⟩ := (hooksSucceed_memberHooks o false).functions d.body
  simp [trailer, hfunctions]

theorem exists_ofType (h : d.WellFormed) : ∃ b, ofType (SourceUnit.context o) d = .ok b := by
  unfold ofType TypeHooks.visit
  cases d.kind with
  | classDecl =>
    obtain ⟨opening, hopening⟩ :=
      exists_interface o h (superclassName (SourceUnit.context o).naming d)
    obtain ⟨declarations, hdeclarations⟩ :=
      (hooksSucceed_memberHooks o d.isInner).declarations h.methods
    obtain ⟨trailer, htrailer⟩ := exists_trailer o (d := d) d.hasInitialize
    simp [typeHooks, classDecl, hopening, hdeclarations, htrailer]
  | enumDecl =>
    obtain ⟨opening, hopening⟩ := exists_interface o h enumSuperclass
    obtain ⟨support, hsupport⟩ := (hooksSucceed_memberHooks o false).methods
      (h.enumSupport (SourceUnit.context o).naming)
    obtain ⟨declarations, hdeclarations⟩ :=
      (hooksSucceed_memberHooks o false).declarations h.methods
    obtain ⟨trailer, htrailer⟩ := exists_trailer o (d := d) true
    simp [typeHooks, enumDecl, hopening, hsupport, hdeclarations, htrailer]
  | annotationDecl =>
    obtain ⟨trailer, htrailer⟩ := exists_trailer o (d := d) false
    simp [typeHooks, annotationDecl, htrailer]

end Header

namespace Implementation

theorem exists_classExtension (h : d.WellFormed) (isInner : Bool) :
    ∃ b, classExtension (SourceUnit.context o) d isInner = .ok b := by
  obtain ⟨ivars, hivars⟩ := h.exists_instanceVariables (SourceUnit.context o) .privateOnly
  obtain ⟨declarations, hdeclarations⟩ :=
    (hooksSucceed_extensionHooks o isInner).declarations h.methods
  unfold classExtension
  split
  · simp [hivars, hdeclarations]
  · exact ⟨_, rfl⟩

theorem exists_ofType (h : d.WellFormed) : ∃ b, ofType (SourceUnit.context o) d = .ok b := by
  obtain ⟨prototypes, hprototypes⟩ : ∃ b, prototypes (SourceUnit.context o) d = .ok b :=
    (hooksSucceed_extensionHooks o false).functions d.body
  obtain ⟨functions, hfunctions⟩ : ∃ b, functions (SourceUnit.context o) d = .ok b :=
    (hooksSucceed_definitionHooks o false).functions d.body
  unfold ofType TypeHooks.visit
  cases d.kind with
  | classDecl =>
    obtain ⟨extension, hextension⟩ := exists_classExtension o h d.isInner
    obtain ⟨definitions, hdefinitions⟩ :=
      (hooksSucceed_definitionHooks o d.isInner).declarations h.methods
    simp [typeHooks, classDecl, hextension, hprototypes, hdefinitions, hfunctions]
  | enumDecl =>
    obtain ⟨extension, hextension⟩ := exists_classExtension o h false
    obtain ⟨support, hsupport⟩ := (hooksSucceed_definitionHooks o false).methods
      (h.enumSupport (SourceUnit.context o).naming)
    obtain ⟨definitions, hdefinitions⟩ :=
      (hooksSucceed_definitionHooks o false).declarations h.methods
    simp [typeHooks, enumDecl, hextension, hprototypes, hsupport, hdefinitions, hfunctions]
  | annotationDecl => exact ⟨_, rfl⟩

end Implementation

end Types

/-! ## Units -/

/-- A well-formed unit has a header and an implementation, and the visitors
print them without any of the checks on their way failing. -/
theorem exists_files_of_wellFormed {u : SourceUnit} (h : u.WellFormed) (o : Options) :
    (∃ t, u.header o = .ok t ∧ u.printedHeader o = .ok t) ∧
      ∃ t, u.implementation o = .ok t ∧ u.printedImplementation o = .ok t := by
  obtain ⟨headers, hheaders⟩ :
      ∃ b, Block.sequence (u.types.map (Header.ofType (SourceUnit.context o))) = .ok b :=
    Block.exists_sequence_map fun d hd => Header.exists_ofType o (h d hd)
  obtain ⟨implementations, himplementations⟩ :
      ∃ b, Block.sequence (u.types.map (Implementation.ofType (SourceUnit.context o))) = .ok b :=
    Block.exists_sequence_map fun d hd => Implementation.exists_ofType o (h d hd)
  have header : ∃ t, u.header o = .ok t :=
    ⟨_, by rw [SourceUnit.header, Header.file, hheaders]; rfl⟩
  have implementation : ∃ t, u.implementation o = .ok t :=
    ⟨_, by rw [SourceUnit.implementation, Implementation.file, himplementations]; rfl⟩
  rw [u.printedHeader_eq, u.printedImplementation_eq]
  exact ⟨by simpa using header, by simpa using implementation⟩

/-- An inner class with a constructor under a selector of its own, and a
method whose selector is derived from the types of its parameters. -/
def garage : SourceUnit :=
  { sourcePath := "Garage.java"
    types :=
      [{ kind := .classDecl
         type := .ofClass "com.foo.Garage$Bay"
         body :=
           [.field { type := .primitive "int", vars := [⟨"level", {}⟩] },
            .method
              { Method.constructorOf (.ofClass "com.foo.Garage$Bay") with
                parameters := [⟨"level", .primitive "int"⟩]
                selector := some "initAtLevel:" },
            .method
              { name := "register"
                owner := .ofClass "com.foo.Garage$Bay"
                parameters := [⟨"names", .arrayOf .string⟩, ⟨"count", .primitive "int"⟩] }] }] }

/-- The unit keeps all promises, so it has both files. -/
theorem exists_files_garage :
    garage.WellFormed ∧ (∃ t, garage.header {} = .ok t ∧ garage.printedHeader {} = .ok t) ∧
      ∃ t, garage.implementation {} = .ok t ∧ garage.printedImplementation {} = .ok t := by
  have wellFormed : garage.WellFormed := by
    intro d hd
    obtain rfl := List.mem_singleton.mp hd
    refine ⟨by decide, by simp [TypeDecl.fields], fun m hm => ?_⟩
    simp only [List.mem_cons, List.not_mem_nil, or_false, reduceCtorEq, false_or,
      Member.method.injEq] at hm
    rcases hm with rfl | rfl
    · exact
        { owner := by decide
          parameters := by decide
          name := by decide
          selector := by
            rintro _ ⟨⟩
            exact Selector.fits_succ.mpr ⟨["initAtLevel"], rfl, by decide, by decide⟩
          head := by
            rintro - _ ⟨⟩
            decide }
    · exact
        { owner := by decide
          parameters := by decide
          name := by decide
          selector := by simp
          head := by simp }
  exact ⟨wellFormed, exists_files_of_wellFormed wellFormed {}⟩

end ObjcDecl
