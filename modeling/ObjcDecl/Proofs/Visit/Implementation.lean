import ObjcDecl.Proofs.Layout
import ObjcDecl.Proofs.Visit
import ObjcDecl.Visit.Implementation

/-!
# What the visitor of an implementation prints

Whatever its visitor remembers from the types before, the implementation
of a type is printed as `Implementation.ofType` says
(`printsAnyway_type`). Classes and enums set the stage before they come
to their members. An annotation type leaves the stage of the type before
it, but prints nothing that depends on it.
-/

namespace ObjcDecl.Implementation.Visitor

open Printer

variable (c : Context) (s : Visitor)

/-- The level is back where it was after a body in braces. -/
theorem prints_braced (declaration : String) (body : List String) :
    Prints c s (braced declaration body) (.ok (Implementation.braced declaration body)) := by
  intro v hc hs
  simp [braced, Implementation.braced, hc, hs, (prints_lines c s body).run, Block.deepen,
    Line.deepen, Function.comp_def]

theorem hooksPrint_extension (isInner : Bool) :
    HooksPrint c ⟨.extension, isInner⟩ memberHooks (extensionHooks c isInner) where
  normalMethod m := by
    intro v hc hs
    cases hidden : m.modifiers.isHidden c.options <;>
      simp [memberHooks, extensionHooks, hidden, hc, hs, (prints_normalMethod c _ m).run]
  constructor m := by
    intro v hc hs
    cases hidden : m.modifiers.isHidden c.options <;>
      simp [memberHooks, extensionHooks, hidden, hc, hs, (prints_constructor c _ m isInner).run]
  function f := by
    intro v hc hs
    cases hidden : f.isPrivate <;> simp [memberHooks, extensionHooks, hidden, hc, hs]
  native n := by
    intro v hc hs
    simp [memberHooks, extensionHooks, hs]

theorem hooksPrint_definitions (isInner : Bool) :
    HooksPrint c ⟨.definitions, isInner⟩ memberHooks (definitionHooks c isInner) where
  normalMethod m := by
    intro v hc hs
    simp [memberHooks, definitionHooks, hc, hs, (prints_braced c _ _ _).run, Visit.emit]
  constructor m := by
    intro v hc hs
    simp [memberHooks, definitionHooks, hc, hs, (prints_braced c _ _ _).run, Visit.emit]
  function f := by
    intro v hc hs
    simp [memberHooks, definitionHooks, hc, hs, (prints_braced c _ _ _).run]
  native n := by
    intro v hc hs
    simp [memberHooks, definitionHooks, hc, hs, (prints_native c _ _).run]

/-- The stage of a class extension is set only where one is printed. -/
theorem run_classExtension (d : TypeDecl) {v : Visit Visitor} (hc : v.context = c) :
    (classExtension d).run v =
      (v.as ⟨if d.hasHiddenMembers c.options then .extension else v.visitor.stage,
        v.visitor.isInner⟩).emit (Implementation.classExtension c d v.visitor.isInner) := by
  cases hidden : d.hasHiddenMembers c.options with
  | false =>
    have same : v.as ⟨v.visitor.stage, v.visitor.isInner⟩ = v := v.as_visitor
    simp [classExtension, Implementation.classExtension, hidden, hc, same]
  | true =>
    have declarations := (hooksPrint_extension c v.visitor.isInner).declarations d.body
    cases ivars : d.hasInstanceVariables .privateOnly c.options with
    | false =>
      simp [classExtension, Implementation.classExtension, start, hidden, ivars, hc,
        declarations.run_as, (prints_endDeclaration c _).run_as, (prints_fieldSetters c _ d _).run_as,
        d.instanceVariables_of_not ivars, Visit.emit]
    | true =>
      simp [classExtension, Implementation.classExtension, start, hidden, ivars, hc,
        (prints_instanceVariables c _ d _).run_as, declarations.run_as,
        (prints_endDeclaration c _).run_as, (prints_fieldSetters c _ d _).run_as, Visit.emit]

theorem run_prototypes (d : TypeDecl) {v : Visit Visitor} (hc : v.context = c) :
    (prototypes d).run v =
      (v.as ⟨.extension, v.visitor.isInner⟩).emit (Implementation.prototypes c d) := by
  have functions : Prints c ⟨.extension, v.visitor.isInner⟩ (all (memberHooks.functions d.body))
      (Implementation.prototypes c d) := (hooksPrint_extension c v.visitor.isInner).functions d.body
  simp [prototypes, start, functions.run_as, hc]

theorem run_definitions (d : TypeDecl) {v : Visit Visitor} (hc : v.context = c) :
    (definitions d).run v = (v.as ⟨.definitions, v.visitor.isInner⟩).emit
      (Block.sequence ((definitionHooks c v.visitor.isInner).declarations d.body)) := by
  have declarations := (hooksPrint_definitions c v.visitor.isInner).declarations d.body
  simp [definitions, start, declarations.run_as, hc]

/-- The free functions are defined alike in inner and other types. -/
theorem prints_functions (isInner : Bool) (d : TypeDecl) :
    Prints c ⟨.definitions, isInner⟩ (all (memberHooks.functions d.body))
      (Implementation.functions c d) :=
  (hooksPrint_definitions c isInner).functions d.body

theorem prints_staticStorage (d : TypeDecl) :
    Prints c s (staticStorage d) (.ok (d.staticStorage c.naming)) := by
  have stored : PrintsHeaded .blank c s (d.storedVariables.foldlM (storedVariable d))
      (Block.sequence (d.storedVariables.map fun p =>
        .ok [.flush (d.storageDeclarator c.naming p.1 p.2 ++ ";")])) :=
    printsHeaded_foldlM fun p _ first v hc _ => by
      cases first <;> simp [storedVariable, hc, Visit.emitHeaded, TypeDecl.headed]
  rw [Block.sequence_map_ok, ← List.map_eq_flatMap] at stored
  intro v hc hs
  simp [staticStorage, TypeDecl.staticStorage, stored.run, hc, hs, Visit.emitHeaded]

theorem prints_classInitializer (d : TypeDecl) :
    Prints c s (classInitializer d) (.ok (Implementation.classInitializer c.naming d)) := by
  intro v hc hs
  simp [classInitializer, Implementation.classInitializer, hc, hs, (prints_lines c s _).run,
    Block.deepen, Line.deepen, Function.comp_def]

theorem prints_opening (d : TypeDecl) :
    Prints c s (opening d) (.ok (Implementation.opening c.naming d)) := by
  intro v hc _
  simp [opening, Implementation.opening, hc]

theorem prints_typeLiteral (d : TypeDecl) (macroName : String) :
    Prints c s (typeLiteral d macroName)
      (.ok (Implementation.typeLiteral c.naming d macroName)) := by
  intro v hc _
  simp [typeLiteral, Implementation.typeLiteral, hc, String.append_assoc]

theorem run_classDecl (d : TypeDecl) {v : Visit Visitor} (hc : v.context = c) :
    (classDecl d).run v =
      (v.as ⟨.definitions, d.isInner⟩).emit (Implementation.classDecl c d) := by
  cases initializes : d.hasInitialize <;>
    simp [classDecl, Implementation.classDecl, hc, run_classExtension, run_prototypes,
      run_definitions, initializes, Visit.emit, classLiteral,
      (prints_staticStorage c _ d).run_as, (prints_opening c _ d).run_as,
      (prints_classInitializer c _ d).run_as, (prints_endDeclaration c _).run_as,
      (prints_functions c _ d).run_as, (prints_typeLiteral c _ d _).run_as]

theorem run_enumDecl (d : TypeDecl) {v : Visit Visitor} (hc : v.context = c) :
    (enumDecl d).run v = (v.as ⟨.definitions, false⟩).emit (Implementation.enumDecl c d) := by
  have support := (hooksPrint_definitions c false).methods (d.enumSupport c.naming)
  simp [enumDecl, Implementation.enumDecl, start, hc, run_classExtension, run_prototypes,
    run_definitions, support.run_as, Visit.emit, classLiteral,
    (prints_staticStorage c _ d).run_as, (prints_opening c _ d).run_as,
    (prints_classInitializer c _ d).run_as, (prints_endDeclaration c _).run_as,
    (prints_functions c _ d).run_as, (prints_typeLiteral c _ d _).run_as]

theorem memberConstructor_of_ne_nil (names : Naming) {ms : List AnnotationMember} (h : ms ≠ []) :
    memberConstructor names ms =
      Implementation.braced (Signature.annotationConstructor names ms)
        (memberConstructorBody names ms) := by
  cases ms with
  | nil => exact absurd rfl h
  | cons m ms => rfl

/-- The stage stays what it was in the type before. -/
theorem run_annotationDecl (d : TypeDecl) {v : Visit Visitor} (hc : v.context = c) :
    (annotationDecl d).run v =
      (v.as ⟨v.visitor.stage, false⟩).emit (Implementation.annotationDecl c d) := by
  have synthesis (s : Visitor) : Prints c s (forM d.annotationMembers (memberSynthesis c.naming))
      (.ok (d.annotationMembers.map (Implementation.memberSynthesis c.naming))) :=
    prints_forM_lines fun _ _ _ _ _ => by
      simp [memberSynthesis, Implementation.memberSynthesis]
  by_cases none : d.annotationMembers = []
  · simp [annotationDecl, Implementation.annotationDecl, none, hc, memberConstructor,
      TypeDecl.headed, (prints_opening c _ d).run_as, (prints_braced c _ _ _).run_as,
      (prints_endDeclaration c _).run_as, (prints_typeLiteral c _ d _).run_as]
  · simp [annotationDecl, Implementation.annotationDecl, none, hc, memberConstructor_of_ne_nil,
      TypeDecl.headed_of_ne_nil, (prints_opening c _ d).run_as, (synthesis _).run_as,
      (prints_braced c _ _ _).run_as, (prints_endDeclaration c _).run_as,
      (prints_typeLiteral c _ d _).run_as]

/-- The implementation of a type does not depend on what the visitor
remembers. -/
theorem printsAnyway_type (d : TypeDecl) :
    PrintsAnyway c (type d) (Implementation.ofType c d) := by
  intro v hc
  unfold type Implementation.ofType TypeHooks.visit
  cases d.kind with
  | classDecl => exact ⟨_, run_classDecl c d hc⟩
  | enumDecl => exact ⟨_, run_enumDecl c d hc⟩
  | annotationDecl => exact ⟨_, run_annotationDecl c d hc⟩

end ObjcDecl.Implementation.Visitor
