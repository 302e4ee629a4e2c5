import ObjcDecl.Proofs.Layout
import ObjcDecl.Proofs.Visit
import ObjcDecl.Visit.Header

/-!
# What the visitor of a header prints

Whatever its visitor remembers from the types before, the header of a type
is printed as `Header.ofType` says (`printsAnyway_type`). Every kind of
type sets what it relies on before it comes to its members, and puts the
level of indentation back where it was.
-/

namespace ObjcDecl.Header.Visitor

open Printer

variable (c : Context) (s : Visitor)

theorem hooksPrint_memberHooks :
    HooksPrint c s memberHooks (Header.memberHooks c s.isInner) where
  normalMethod m := by
    intro v hc hs
    cases hidden : m.modifiers.isHidden c.options <;>
      simp [memberHooks, Header.memberHooks, hidden, hc, hs, (prints_normalMethod c s m).run]
  constructor m := by
    intro v hc hs
    cases hidden : m.modifiers.isHidden c.options <;>
      simp [memberHooks, Header.memberHooks, hidden, hc, hs,
        (prints_constructor c s m s.isInner).run]
  function f := by
    intro v hc hs
    cases hidden : f.isPrivate <;> simp [memberHooks, Header.memberHooks, hidden, hc]
  native n := prints_native c s n.headerCode

/-- The free functions are printed alike in inner and other types. -/
theorem prints_functions (body : List Member) :
    Prints c s (all (memberHooks.functions body))
      (Block.sequence ((Header.memberHooks c false).functions body)) :=
  (hooksPrint_memberHooks c s).functions body

theorem prints_interface (d : TypeDecl) (superclass : String) :
    Prints c s (interface d superclass) (Header.interface c d superclass) := by
  intro v hc hs
  cases ivars : d.hasInstanceVariables .nonPrivate c.options with
  | false =>
    simp [interface, Header.interface, interfaceLine, ivars, hc, hs, (prints_doc c s d.doc).run,
      d.instanceVariables_of_not ivars, String.append_assoc]
  | true =>
    simp [interface, Header.interface, interfaceLine, ivars, hc, hs, (prints_doc c s d.doc).run,
      (prints_instanceVariables c s d .nonPrivate).run, Visit.emit, String.append_assoc]

theorem printsHeaded_staticVariable (d : TypeDecl) (p : Field × Variable) :
    PrintsHeaded .blank c s (staticVariable d · p)
      (.ok (d.storageExport c.naming p.1 p.2 ++ [d.accessor c.naming p.1 p.2])) := by
  intro first v hc hs
  obtain ⟨f, x⟩ := p
  cases constant : x.binding.isPrimitiveConstant <;> cases first <;>
    simp [staticVariable, TypeDecl.storageExport, TypeDecl.accessor, constant, hc,
      Visit.emitHeaded, TypeDecl.headed, String.append_assoc]

theorem prints_trailer (d : TypeDecl) (hasInitialize : Bool) :
    Prints c s (trailer d hasInitialize) (Header.trailer c d hasInitialize) := by
  have statics := printsHeaded_foldlM fun p (_ : p ∈ d.staticVariables) =>
    printsHeaded_staticVariable c s d p
  rw [Block.sequence_map_ok] at statics
  intro v hc hs
  simp [trailer, Header.trailer, hc, hs, (prints_fieldSetters c s d .nonPrivate).run, statics.run,
    (prints_functions c s d.body).run, TypeDecl.staticAccessors, Visit.emit, Visit.emitHeaded]

theorem run_classDecl (d : TypeDecl) {v : Visit Visitor} (hc : v.context = c) :
    (classDecl d).run v = (v.as ⟨d.isInner⟩).emit (Header.classDecl c d) := by
  simp [classDecl, Header.classDecl, hc, (prints_interface c ⟨d.isInner⟩ d _).run_as,
    ((hooksPrint_memberHooks c ⟨d.isInner⟩).declarations d.body).run_as,
    (prints_endDeclaration c _).run_as, (prints_trailer c ⟨d.isInner⟩ d _).run_as, Visit.emit]

theorem prints_enumeration (d : TypeDecl) :
    Prints c s (enumeration d) (.ok (Header.enumeration c.naming d)) := by
  have constants (enumName : String) : Prints c s (forM d.enumConstants.zipIdx (enumerator enumName))
      (.ok (d.enumConstants.zipIdx.map fun p =>
        .nested 0 (enumName ++ "_" ++ p.1 ++ " = " ++ toString p.2 ++ ","))) :=
    prints_forM_lines fun _ _ _ _ _ => by simp [enumerator]
  intro v hc hs
  simp [enumeration, Header.enumeration, hc, hs, (constants _).run, Block.deepen, Line.deepen,
    Function.comp_def]

theorem prints_enumValues (d : TypeDecl) :
    Prints c s (enumValues d)
      (.ok ([.blank, .flush ("FOUNDATION_EXPORT " ++ c.naming.fullName d.type ++ " *" ++
        d.enumValuesName c.naming ++ "[];")] ++ enumAccessors c.naming d)) := by
  have accessors (fullName : String) :
      Prints c s (forM d.enumConstants (constantAccessor fullName))
        (.ok (d.enumConstants.map fun name =>
          .flush ("J2OBJC_ENUM_CONSTANT(" ++ fullName ++ ", " ++ name ++ ")"))) :=
    prints_forM_lines fun _ _ _ _ _ => by simp [constantAccessor]
  intro v hc hs
  by_cases none : d.enumConstants = []
  · simp [enumValues, enumAccessors, none, hc, TypeDecl.headed]
  · simp [enumValues, enumAccessors, none, hc, hs, (accessors _).run, TypeDecl.headed_of_ne_nil]

theorem run_enumDecl (d : TypeDecl) {v : Visit Visitor} (hc : v.context = c) :
    (enumDecl d).run v = (v.as ⟨false⟩).emit (Header.enumDecl c d) := by
  simp [enumDecl, Header.enumDecl, hc, (prints_enumeration c ⟨false⟩ d).run_as,
    (prints_interface c ⟨false⟩ d _).run_as,
    ((hooksPrint_memberHooks c ⟨false⟩).methods (d.enumSupport c.naming)).run_as,
    ((hooksPrint_memberHooks c ⟨false⟩).declarations d.body).run_as,
    (prints_endDeclaration c _).run_as, (prints_enumValues c ⟨false⟩ d).run_as,
    (prints_trailer c ⟨false⟩ d _).run_as, Visit.emit]

theorem prints_memberProtocol (d : TypeDecl) :
    Prints c s (memberProtocol d)
      (.ok (.blank :: DocComment.block c.detect d.doc ++
        [.flush ("@protocol " ++ c.naming.fullName d.type ++ " < " ++ annotationProtocol ++ " >")] ++
        TypeDecl.headed .blank (d.annotationMembers.map (Header.memberProperty c.naming)) ++
        Header.ending)) := by
  have properties : Prints c s (forM d.annotationMembers (memberProperty c.naming))
      (.ok (d.annotationMembers.map (Header.memberProperty c.naming))) :=
    prints_forM_lines fun _ _ _ _ _ => by simp [memberProperty, Header.memberProperty]
  intro v hc hs
  by_cases none : d.annotationMembers = []
  · simp [memberProtocol, none, hc, hs, (prints_doc c s d.doc).run, (prints_endDeclaration c s).run,
      TypeDecl.headed]
  · simp [memberProtocol, none, hc, hs, (prints_doc c s d.doc).run, (prints_endDeclaration c s).run,
      properties.run, TypeDecl.headed_of_ne_nil]

theorem memberConstructor_of_ne_nil (names : Naming) {ms : List AnnotationMember} (h : ms ≠ []) :
    memberConstructor names ms =
      [.blank, .flush (Signature.annotationConstructor names ms ++ ";")] := by
  cases ms with
  | nil => exact absurd rfl h
  | cons m ms => rfl

theorem prints_memberInterface (d : TypeDecl) :
    Prints c s (memberInterface d)
      (.ok ([.blank, .flush ("@interface " ++ c.naming.fullName d.type ++ " : " ++ rootClass ++
          " < " ++ c.naming.fullName d.type ++ " > \x7b")] ++
        TypeDecl.headed (.flush " @public")
          (d.annotationMembers.map (Header.memberVariable c.naming)) ++
        [.flush "\x7d"] ++ memberConstructor c.naming d.annotationMembers ++ Header.ending)) := by
  have storage : Prints c s (forM d.annotationMembers (memberVariable c.naming))
      (.ok (d.annotationMembers.map fun m => .nested 0
        (declarator (c.naming.specificTypeText m.type) (c.naming.fieldName m.propertyName) ++
          ";"))) :=
    prints_forM_lines fun _ _ _ _ _ => by simp [memberVariable]
  have deeper (ms : List AnnotationMember) :
      Block.deepen 1 (.flush " @public" :: ms.map fun m => .nested 0
        (declarator (c.naming.specificTypeText m.type) (c.naming.fieldName m.propertyName) ++
          ";")) =
      .flush " @public" :: ms.map (Header.memberVariable c.naming) := by
    rw [Block.deepen, List.map_cons, List.map_map]
    rfl
  intro v hc hs
  by_cases none : d.annotationMembers = []
  · simp [memberInterface, none, hc, hs, (prints_endDeclaration c s).run, TypeDecl.headed,
      memberConstructor]
  · simp [memberInterface, none, hc, hs, (prints_endDeclaration c s).run, storage.run, deeper,
      TypeDecl.headed_of_ne_nil, memberConstructor_of_ne_nil]

theorem run_annotationDecl (d : TypeDecl) {v : Visit Visitor} (hc : v.context = c) :
    (annotationDecl d).run v = (v.as ⟨false⟩).emit (Header.annotationDecl c d) := by
  simp [annotationDecl, Header.annotationDecl, hc, (prints_memberProtocol c ⟨false⟩ d).run_as,
    (prints_memberInterface c ⟨false⟩ d).run_as, (prints_trailer c ⟨false⟩ d _).run_as, Visit.emit]

/-- The header of a type does not depend on what the visitor remembers. -/
theorem printsAnyway_type (d : TypeDecl) : PrintsAnyway c (type d) (Header.ofType c d) := by
  intro v hc
  unfold type Header.ofType TypeHooks.visit
  cases d.kind with
  | classDecl => exact ⟨_, run_classDecl c d hc⟩
  | enumDecl => exact ⟨_, run_enumDecl c d hc⟩
  | annotationDecl => exact ⟨_, run_annotationDecl c d hc⟩

end ObjcDecl.Header.Visitor
