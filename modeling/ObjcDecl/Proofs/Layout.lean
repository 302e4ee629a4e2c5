import ObjcDecl.Emit.Implementation
import ObjcDecl.Proofs.Emission

/-!
# Layouts

What a generated file says of a type is a list of items, and each item is
about one thing: the declaration of a method, the storage of a static
variable, the setter of a field. The emitters print lines and keep no
record of what the lines are about; a `Layout` is that record. `Item.emit`
is the one place where items become lines, so a property of the items of
a layout is a property of the text that the layout stands for.

The layouts of the two files are in `Layout.Header` and
`Layout.Implementation`, each with the law that the file prints its
layout and nothing else. Here are the items, their text, and the laws by
which the text of a layout is put together from the texts of its parts.
-/

namespace ObjcDecl

/-! ## What items are about -/

/-- Whether members with these modifiers are left to the implementation:
private members are hidden, and they are private or absent from the
source. -/
def Modifiers.areLeftOut (o : Options) (ms : Modifiers) : Bool :=
  o.hidePrivate && (ms.isPrivate || ms.isSynthetic)

theorem Modifiers.isHidden_eq (o : Options) (ms : Modifiers) :
    ms.isHidden o = ms.areLeftOut o := rfl

/-- The variables that a member declares, each with its statement. -/
def Member.variables : Member → List (Field × Variable)
  | .field f => f.vars.map fun x => (f, x)
  | _ => []

namespace TypeDecl

/-- Whether the selectors of the type's constructors name the type. Only
the constructors of an inner class do. -/
def namesConstructors (d : TypeDecl) : Bool := d.kind == .classDecl && d.isInner

/-- The methods that a type has by its kind: the two of every enum. -/
def supportMethods (names : Naming) (d : TypeDecl) : List Method :=
  if d.kind = .enumDecl then d.enumSupport names else []

/-- The members of a type in the order of their declarations: those that
it has by its kind come before those of the body. -/
def allMembers (names : Naming) (d : TypeDecl) : List Member :=
  (d.supportMethods names).map .method ++ d.body

/-- The free functions of a type's body. -/
def functions (d : TypeDecl) : List Function :=
  d.body.filterMap fun
    | .function f => some f
    | _ => none

/-- Going through the statements for their variables is going through the
body. -/
theorem vars_eq_flatMap_body (d : TypeDecl) : d.vars = d.body.flatMap Member.variables := by
  unfold vars fields
  induction d.body with
  | nil => rfl
  | cons x l ih =>
    rw [List.flatMap_cons, ← ih]
    cases x <;> rfl

/-- Whether the type has a class initializer. An enum always does, since
the initializer creates its constants. -/
def initializes (d : TypeDecl) : Bool :=
  match d.kind with
  | .classDecl => d.hasInitialize
  | .enumDecl => true
  | .annotationDecl => false

/-- The block of instance variables that some statements declare. -/
def variableBlock (c : Context) (d : TypeDecl) (fs : List Field) : Emission := do
  let b ← Block.sequence (fs.map (Field.block c d.type))
  pure (headed (.flush " @public") (b.deepen 1))

end TypeDecl

/-- The variables of a statement that own an object. -/
def Field.ownedVariables (f : Field) : List Variable :=
  if f.type.isPrimitive then [] else f.vars.filter fun v => !v.binding.isWeak

/-! ## Stretches that several items have

The lines are written out here, apart from the emitters. -/

/-- A comment in its frame; nothing without a comment. -/
def commentLines (detect : Text.SentenceDetector) : Option Doc → Block
  | none => []
  | some x =>
    [.nested 0 "/**"] ++ (DocComment.lines detect x).map (fun l => .nested 0 (" " ++ l)) ++
      [.nested 0 " */"]

/-- A type before a name. A `*` stays against the name. -/
def typedName (type name : String) : String :=
  type ++ (if type.toList.getLast? = some '*' then "" else " ") ++ name

/-- A definition: its signature after a blank line, and its body between
braces. -/
def definitionLines (signature : String) (body : List String) : Block :=
  [.blank, .flush (signature ++ " \x7b")] ++ body.map (.nested 1 ·) ++ [.flush "\x7d"]

/-- Native code after a blank line, without the white space at its end. -/
def nativeLines : Option String → Block
  | none => []
  | some code => [.blank, .flush (String.ofList (Unicode.trimEnd code.toList))]

/-- The end of an interface, an extension or an implementation. -/
def endLines : Block := [.blank, .flush "@end"]

theorem DocComment.block_eq (detect : Text.SentenceDetector) (doc : Option Doc) :
    block detect doc = commentLines detect doc := by
  cases doc <;> rfl

theorem declarator_eq (type name : String) : declarator type name = typedName type name := by
  unfold declarator typedName endsIn
  by_cases pointer : type.toList.getLast? = some '*' <;> simp [pointer]

theorem Implementation.braced_eq (signature : String) (body : List String) :
    braced signature body = definitionLines signature body := rfl

theorem Header.nativeCode_eq (code : Option String) : nativeCode code = nativeLines code := by
  cases code <;> rfl

theorem Header.ending_eq : ending = endLines := rfl

/-- The first line of an interface, with the given instance variables in
braces if statements declare any. -/
def bracedVariables (opening : String) (fs : List Field) (ivars : Block) : Block :=
  if fs.isEmpty then [.flush opening] else .flush (opening ++ " \x7b") :: ivars ++ [.flush "\x7d"]

theorem TypeDecl.hasInstanceVariables_eq (d : TypeDecl) (v : FieldVisibility) (o : Options) :
    d.hasInstanceVariables v o = !(d.instanceFields v o).isEmpty := by
  rw [Bool.eq_iff_iff]
  simp [hasInstanceVariables, instanceFields]

/-- Without selected statements nothing is declared in a place. -/
theorem TypeDecl.instanceVariables_of_not {c : Context} {v : FieldVisibility} (d : TypeDecl)
    (h : d.hasInstanceVariables v c.options = false) : d.instanceVariables c v = .ok [] := by
  rw [hasInstanceVariables_eq, Bool.not_eq_false', List.isEmpty_iff] at h
  rw [instanceVariables, h]
  rfl

/-- The emitters ask whether any statement is selected for a place; that
is whether the list of the selected statements is empty. -/
theorem TypeDecl.bracedVariables_instanceFields (d : TypeDecl) (v : FieldVisibility) (o : Options)
    (opening : String) (ivars : Block) :
    bracedVariables opening (d.instanceFields v o) ivars =
      if d.hasInstanceVariables v o then .flush (opening ++ " \x7b") :: ivars ++ [.flush "\x7d"]
      else [.flush opening] := by
  rw [bracedVariables, hasInstanceVariables_eq]
  cases (d.instanceFields v o).isEmpty <;> rfl

/-- A stretch of a generated file, by what it is about. -/
inductive Item where
  | blank
  /-- The head of an `@interface` with the instance variables that the
  statements declare. -/
  | interfaceHead (superclass : String) (fields : List Field)
  /-- The head of a class extension with its instance variables. -/
  | extensionHead (fields : List Field)
  | implementationHead
  /-- The end of an interface, an extension or an implementation. -/
  | ending
  | declaration (m : Method)
  | definition (m : Method)
  | native (code : Option String)
  | setter (f : Field) (v : Variable)
  | storageExport (f : Field) (v : Variable)
  | accessor (f : Field) (v : Variable)
  | storage (f : Field) (v : Variable)
  | exportedPrototype (f : Function)
  | privatePrototype (f : Function)
  | functionDefinition (f : Function)
  /-- Whether the header announces a class initializer. -/
  | initialization (needed : Bool)
  | initializer
  | literal (macroName : String)
  | enumeration
  | valuesExport
  | constantAccessor (name : String)
  | valuesStorage
  /-- The protocol of an annotation type and the interface of its class,
  up to the end of the latter. -/
  | annotationInterface
  /-- The methods of an annotation type's class. -/
  | annotationDefinitions

namespace Item

/-- The lines of an item, for the type that the file is about. -/
def emit (c : Context) (d : TypeDecl) : Item → Emission
  | .blank => .ok [.blank]
  | .interfaceHead superclass fs => do
    let ivars ← d.variableBlock c fs
    pure (.blank :: DocComment.block c.detect d.doc ++
      bracedVariables (Header.interfaceLine c.naming d superclass) fs ivars)
  | .extensionHead fs => do
    let ivars ← d.variableBlock c fs
    pure (.blank :: bracedVariables (Implementation.extensionLine c.naming d) fs ivars)
  | .implementationHead => .ok (Implementation.opening c.naming d)
  | .ending => .ok Header.ending
  | .declaration m =>
    if m.isConstructor then m.constructorDeclaration c d.namesConstructors
    else m.normalDeclaration c
  | .definition m => (Implementation.definitionHooks c d.namesConstructors).method m
  | .native code => .ok (Header.nativeCode code)
  | .setter f v => .ok [f.setter c.naming d.type v]
  | .storageExport f v =>
    .ok [.flush ("FOUNDATION_EXPORT " ++ d.storageDeclarator c.naming f v ++ ";")]
  | .accessor f v => .ok [d.accessor c.naming f v]
  | .storage f v => .ok [.flush (d.storageDeclarator c.naming f v ++ ";")]
  | .exportedPrototype f =>
    .ok [.blank, .flush ("FOUNDATION_EXPORT " ++ Signature.function c.naming f ++ ";")]
  | .privatePrototype f =>
    .ok [.blank, .flush ("__attribute__((unused)) static " ++
      Signature.function c.naming f ++ ";")]
  | .functionDefinition f =>
    .ok (Implementation.braced (Implementation.functionSignature c.naming f) f.body)
  | .initialization needed =>
    .ok [.blank, .flush ((if needed then "J2OBJC_STATIC_INIT" else "J2OBJC_EMPTY_STATIC_INIT") ++
      "(" ++ c.naming.fullName d.type ++ ")")]
  | .initializer => .ok (Implementation.classInitializer c.naming d)
  | .literal macroName => .ok (Implementation.typeLiteral c.naming d macroName)
  | .enumeration => .ok (Header.enumeration c.naming d)
  | .valuesExport =>
    .ok [.blank, .flush ("FOUNDATION_EXPORT " ++ c.naming.fullName d.type ++ " *" ++
      d.enumValuesName c.naming ++ "[];")]
  | .constantAccessor name =>
    .ok [.flush ("J2OBJC_ENUM_CONSTANT(" ++ c.naming.fullName d.type ++ ", " ++ name ++ ")")]
  | .valuesStorage =>
    .ok [.blank, .flush (c.naming.fullName d.type ++ " *" ++ d.enumValuesName c.naming ++ "[" ++
      d.enumSize ++ "];")]
  | .annotationInterface =>
    .ok (.blank :: DocComment.block c.detect d.doc ++
      [.flush ("@protocol " ++ c.naming.fullName d.type ++ " < " ++
        Header.annotationProtocol ++ " >")] ++
      TypeDecl.headed .blank (d.annotationMembers.map (Header.memberProperty c.naming)) ++
      Header.ending ++
      [.blank, .flush ("@interface " ++ c.naming.fullName d.type ++ " : " ++ Header.rootClass ++
        " < " ++ c.naming.fullName d.type ++ " > \x7b")] ++
      TypeDecl.headed (.flush " @public")
        (d.annotationMembers.map (Header.memberVariable c.naming)) ++
      [.flush "\x7d"] ++ Header.memberConstructor c.naming d.annotationMembers)
  | .annotationDefinitions =>
    .ok (TypeDecl.headed .blank
        (d.annotationMembers.map (Implementation.memberSynthesis c.naming)) ++
      Implementation.memberConstructor c.naming d.annotationMembers ++
      Implementation.braced "- (IOSClass *)annotationType"
        ["return " ++ c.naming.fullName d.type ++ "_class_();"])

end Item

/-- What a generated file says of a type, in order. -/
abbrev Layout := List Item

namespace Layout

variable (c : Context) (d : TypeDecl)

/-- The lines of a layout. -/
def emit (l : Layout) : Emission := Block.sequence (l.map (Item.emit c d))

/-- The heading of a list of items, dropped with it. -/
def headed (heading : Item) : Layout → Layout
  | [] => []
  | i :: is => heading :: i :: is

/-! ## The text of a layout from the texts of its parts -/

theorem emit_nil : emit c d [] = .ok [] := rfl

theorem emit_singleton (i : Item) : emit c d [i] = i.emit c d := Block.sequence_singleton _

theorem emit_append (a b : Layout) :
    emit c d (a ++ b) = (do
      let x ← emit c d a
      let y ← emit c d b
      pure (x ++ y)) := by
  simp only [emit, List.map_append, Block.sequence_append]

theorem emit_cons (i : Item) (l : Layout) :
    emit c d (i :: l) = (do
      let x ← i.emit c d
      let y ← emit c d l
      pure (x ++ y)) := rfl

variable {c d}

/-- A layout in two parts is printed exactly when both parts are, and then
it is printed as the one followed by the other. -/
theorem emit_append_eq_ok {a b : Layout} {text : Block} :
    emit c d (a ++ b) = .ok text ↔
      ∃ x y, emit c d a = .ok x ∧ emit c d b = .ok y ∧ text = x ++ y := by
  rw [emit_append]
  constructor
  · intro h
    obtain ⟨x, hx, h⟩ := Emission.bind_eq_ok.mp h
    obtain ⟨y, hy, h⟩ := Emission.bind_eq_ok.mp h
    cases h
    exact ⟨x, y, hx, hy, rfl⟩
  · rintro ⟨x, y, hx, hy, rfl⟩
    rw [hx, hy]
    rfl

theorem emit_cons_eq_ok {i : Item} {l : Layout} {text : Block} :
    emit c d (i :: l) = .ok text ↔
      ∃ x y, i.emit c d = .ok x ∧ emit c d l = .ok y ∧ text = x ++ y := by
  rw [← emit_singleton c d i]
  exact emit_append_eq_ok (a := [i])

/-- Stretches that are printed one by one are printed in a row. -/
theorem emit_flatMap_of_forall {α : Type} {g : α → Layout} {text : α → Block} {l : List α}
    (h : ∀ x ∈ l, emit c d (g x) = .ok (text x)) :
    emit c d (l.flatMap g) = .ok (l.flatMap text) := by
  induction l with
  | nil => rfl
  | cons x l ih =>
    rw [List.flatMap_cons, emit_append, h x List.mem_cons_self,
      ih fun y hy => h y (List.mem_cons_of_mem _ hy)]
    rfl

/-- What is printed in a row is printed stretch by stretch. -/
theorem exists_emit_of_emit_flatMap {α : Type} {g : α → Layout} {l : List α} {text : Block}
    (h : emit c d (l.flatMap g) = .ok text) {x : α} (hx : x ∈ l) :
    ∃ t, emit c d (g x) = .ok t := by
  induction l generalizing text with
  | nil => cases hx
  | cons y l ih =>
    obtain ⟨a, b, ha, hb, -⟩ := emit_append_eq_ok.mp h
    rcases List.mem_cons.mp hx with rfl | hx
    · exact ⟨a, ha⟩
    · exact ih hb hx

/-- Members whose emissions are those of their items give the sequence of
these emissions; a member without an emission has no items. -/
theorem emit_flatMap_eq_sequence {g : Member → Layout} {k : Member → Option Emission}
    (h : ∀ x, emit c d (g x) = (k x).getD (.ok [])) (l : List Member) :
    emit c d (l.flatMap g) = Block.sequence (l.filterMap k) := by
  induction l with
  | nil => rfl
  | cons x l ih =>
    rw [List.flatMap_cons, emit_append, ih, h x]
    cases hk : k x with
    | none => simp [hk, Emission.ok_bind]
    | some e => simp [hk, Block.sequence_cons]

/-- Items that are printed one by one are printed in a row. -/
theorem emit_map_of_forall {α : Type} {i : α → Item} {text : α → Block} {l : List α}
    (h : ∀ x ∈ l, (i x).emit c d = .ok (text x)) :
    emit c d (l.map i) = .ok (l.flatMap text) := by
  rw [List.map_eq_flatMap]
  exact emit_flatMap_of_forall fun x hx => (emit_singleton c d _).trans (h x hx)

/-- Items that are printed as one line each are printed line by line. -/
theorem emit_map_lines {α : Type} {i : α → Item} {line : α → Line} {l : List α}
    (h : ∀ x ∈ l, (i x).emit c d = .ok [line x]) : emit c d (l.map i) = .ok (l.map line) := by
  rw [emit_map_of_forall h, List.map_eq_flatMap]

/-- A blank line before a layout is printed unless the layout is empty,
provided that no other layout is printed as nothing. -/
theorem emit_headed {l : Layout} {text : Block} (h : emit c d l = .ok text)
    (hempty : text = [] → l = []) :
    emit c d (headed .blank l) = .ok (TypeDecl.headed .blank text) := by
  cases l with
  | nil =>
    cases h
    rfl
  | cons i l =>
    cases text with
    | nil => cases hempty rfl
    | cons t text =>
      rw [headed, emit_cons, h]
      rfl

end Layout

/-! ## Members in the order of their declarations -/

/-- What is taken out of some members, in order, are those members. -/
theorem Member.filter_eq_map_filterMap {α : Type} {isKind : Member → Bool}
    {content : Member → Option α} {make : α → Member}
    (h : ∀ x, (content x).map make = if isKind x then some x else none) (l : List Member) :
    l.filter isKind = (l.filterMap content).map make := by
  induction l with
  | nil => rfl
  | cons x l ih =>
    have hx := h x
    cases kind : isKind x <;> cases taken : content x <;> simp_all

theorem MemberHooks.declarations_append {α : Type} (h : MemberHooks α) (xs ys : List Member) :
    h.declarations (xs ++ ys) = h.declarations xs ++ h.declarations ys :=
  List.filterMap_append

theorem MemberHooks.declarations_map_method {α : Type} (h : MemberHooks α) (ms : List Method) :
    h.declarations (ms.map .method) = ms.map h.method := by
  induction ms with
  | nil => rfl
  | cons m ms ih => exact congrArg (h.method m :: ·) ih

/-- Visiting the methods of every enum and then the body is one visit of
all members. -/
theorem TypeDecl.sequence_allMembers (names : Naming) {d : TypeDecl} (hk : d.kind = .enumDecl)
    (h : MemberHooks Emission) :
    Block.sequence (h.declarations (d.allMembers names)) = (do
      let support ← Block.sequence ((d.enumSupport names).map h.method)
      let declarations ← Block.sequence (h.declarations d.body)
      pure (support ++ declarations)) := by
  rw [allMembers, supportMethods, if_pos hk, h.declarations_append, h.declarations_map_method,
    Block.sequence_append]

/-- A type other than an enum has the members of its body. -/
theorem TypeDecl.allMembers_eq_body (names : Naming) {d : TypeDecl} (hk : d.kind ≠ .enumDecl) :
    d.allMembers names = d.body := by
  rw [allMembers, supportMethods, if_neg hk]
  rfl

/-! ## Setters -/

/-- The setters registered in a place. -/
def TypeDecl.setterItems (v : FieldVisibility) (o : Options) (d : TypeDecl) : Layout :=
  (d.instanceFields v o).flatMap fun f => f.ownedVariables.map (.setter f)

theorem Field.setters_eq_map (names : Naming) (owner : TypeRef) (f : Field) :
    f.setters names owner = f.ownedVariables.map (f.setter names owner) := by
  unfold Field.setters Field.ownedVariables
  split <;> rfl

/-- The setters under their heading are printed as the setters of a type. -/
theorem Layout.emit_setterItems (c : Context) (v : FieldVisibility) (d : TypeDecl) :
    Layout.emit c d (Layout.headed .blank (d.setterItems v c.options)) =
      .ok (d.fieldSetters c v) := by
  refine Layout.emit_headed (Layout.emit_flatMap_of_forall fun f _ => ?_) ?_
  · rw [Field.setters_eq_map]
    exact Layout.emit_map_lines fun _ _ => rfl
  · intro h
    simp only [Field.setters_eq_map, List.flatMap_eq_nil_iff, List.map_eq_nil_iff,
      TypeDecl.setterItems] at h ⊢
    exact h

end ObjcDecl
