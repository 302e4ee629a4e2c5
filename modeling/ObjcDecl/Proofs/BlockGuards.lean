import ObjcDecl.Proofs.FieldPrinting
import ObjcDecl.Proofs.InstanceVariables
import ObjcDecl.Proofs.Methods
import ObjcDecl.Proofs.Visit.Header
import ObjcDecl.Proofs.Visit.Implementation

/-!
# The guards of blocks

Two blocks of a generated file are printed if a question about the type is
answered with yes: the braces of instance variables in the head of an
interface, and the class extension. The question is asked before the block
is begun, and the loops within the block decide once more, statement by
statement and method by method, what is declared there. If the two
disagree, the braces or the extension are empty, or declarations are lost
with a block that is left out.

The texts of both blocks are given here without the questions, by the lists
of what they declare: `headText` for the head of an interface or extension,
`Implementation.extensionText` for the extension. Neither has a case for an
empty block. `GuardsAgree` says that these are the texts that the visitors
print, and that nothing is lost where the extension is left out; it holds of
every class and enum whose statements have variables (`guardsAgree`).
-/

namespace ObjcDecl

/-! ## The texts of the blocks -/

/-- The head of an interface or extension: its first line, and if there are
statements, their variables in braces. -/
def headText (c : Context) (opening : String) : List Field → Block
  | [] => [.flush opening]
  | f :: fs =>
    [.flush (opening ++ " \x7b"), .flush " @public"] ++
      Block.deepen 1 ((f :: fs).flatMap (Field.lines c)) ++ [.flush "\x7d"]

/-- The class extension that declares some statements and methods, with the
setters of its variables, if there are any. -/
def Implementation.extensionText (c : Context) (d : TypeDecl) : List Field → List Method → Block
  | [], [] => []
  | fs, ms =>
    .blank :: headText c (extensionLine c.naming d) fs ++ ms.flatMap (d.declarationText c) ++
      Header.ending ++ d.fieldSetters c .privateOnly

variable {c : Context} {o : Options} {d : TypeDecl} {m : Method}

theorem Implementation.extensionText_of_ne {fs : List Field} {ms : List Method}
    (h : fs ≠ [] ∨ ms ≠ []) :
    extensionText c d fs ms =
      .blank :: headText c (extensionLine c.naming d) fs ++ ms.flatMap (d.declarationText c) ++
        Header.ending ++ d.fieldSetters c .privateOnly := by
  cases fs with
  | cons f fs => rfl
  | nil =>
    cases ms with
    | cons m ms => rfl
    | nil => simp at h

namespace TypeDecl

/-- The methods and constructors that the header leaves to the
implementation. -/
def hiddenMethods (o : Options) (d : TypeDecl) : List Method :=
  d.body.filterMap fun
    | .method m => if m.modifiers.isHidden o then some m else none
    | _ => none

theorem mem_hiddenMethods_iff :
    m ∈ d.hiddenMethods o ↔ .method m ∈ d.body ∧ m.modifiers.isHidden o = true := by
  rw [hiddenMethods, List.mem_filterMap]
  constructor
  · rintro ⟨x, hx, selected⟩
    cases x with
    | method n =>
      obtain ⟨hidden, rfl⟩ := Option.ite_some_none_eq_some.mp selected
      exact ⟨hx, hidden⟩
    | _ => cases selected
  · rintro ⟨hm, hidden⟩
    exact ⟨.method m, hm, if_pos hidden⟩

/-- The guard of the braces asks whether there is anything to put into
them. -/
theorem hasInstanceVariables_iff {v : FieldVisibility} :
    d.hasInstanceVariables v o = true ↔ d.instanceFields v o ≠ [] := by
  rw [hasInstanceVariables_eq, Bool.not_eq_true', ← Bool.not_eq_true, List.isEmpty_iff]

/-- The guard of the extension asks whether there is anything to declare
in it. -/
theorem hasHiddenMembers_iff :
    d.hasHiddenMembers o = true ↔
      d.instanceFields .privateOnly o ≠ [] ∨ d.hiddenMethods o ≠ [] := by
  have methods : d.body.any (Member.isHiddenMethod o) = true ↔ d.hiddenMethods o ≠ [] := by
    rw [List.any_eq_true]
    constructor
    · rintro ⟨x, hx, hidden⟩
      cases x with
      | method m => exact List.ne_nil_of_mem (mem_hiddenMethods_iff.mpr ⟨hx, hidden⟩)
      | _ => cases hidden
    · intro some
      obtain ⟨m, hm⟩ := List.exists_mem_of_ne_nil _ some
      obtain ⟨hm, hidden⟩ := mem_hiddenMethods_iff.mp hm
      exact ⟨.method m, hm, hidden⟩
  rw [hasHiddenMembers, Bool.or_eq_true, methods, hasInstanceVariables_iff]

theorem hasHiddenMembers_eq_false_iff :
    d.hasHiddenMembers o = false ↔
      d.instanceFields .privateOnly o = [] ∧ d.hiddenMethods o = [] := by
  rw [← Bool.not_eq_true, hasHiddenMembers_iff, not_or, not_ne_iff, not_ne_iff]

/-- Going through the body for its hidden methods comes to these. -/
theorem flatMap_hiddenItems (o : Options) (d : TypeDecl) :
    d.body.flatMap (Implementation.hiddenItems o) = (d.hiddenMethods o).map .declaration := by
  unfold hiddenMethods
  induction d.body with
  | nil => rfl
  | cons x l ih =>
    rw [List.flatMap_cons, ih]
    cases x with
    | method m => cases h : m.modifiers.isHidden o <;> simp [Implementation.hiddenItems, h]
    | _ => rfl

end TypeDecl

/-! ## The printers print these texts -/

/-- Where the guard of the braces lets variables pass, there are some. -/
theorem TypeDecl.headText_instanceFields (d : TypeDecl) (v : FieldVisibility) (opening : String) :
    (if d.hasInstanceVariables v c.options then
      .flush (opening ++ " \x7b") :: headed (.flush " @public")
        (Block.deepen 1 ((d.instanceFields v c.options).flatMap (Field.lines c))) ++ [.flush "\x7d"]
    else [.flush opening]) = headText c opening (d.instanceFields v c.options) := by
  rw [← bracedVariables_instanceFields]
  cases d.instanceFields v c.options with
  | nil => rfl
  | cons f fs =>
    rw [headed_statements]
    rfl

/-- The head of an interface has the variables that are not hidden. -/
theorem Header.interface_eq_ok
    (some : ∀ f ∈ d.instanceFields .nonPrivate c.options, f.vars ≠ []) (superclass : String) :
    interface c d superclass = .ok (.blank :: DocComment.block c.detect d.doc ++
      headText c (interfaceLine c.naming d superclass)
        (d.instanceFields .nonPrivate c.options)) := by
  have ivars := TypeDecl.instanceVariables_eq_ok_iff.mpr ⟨some, rfl⟩
  rw [interface, ivars, ← TypeDecl.headText_instanceFields]
  rfl

/-- Declarations are printed if the methods have signatures. -/
theorem Layout.emit_declarations_eq_ok_iff {ms : List Method} {b : Block} :
    Layout.emit c d (ms.map .declaration) = .ok b ↔
      (∀ m ∈ ms, d.signature c.naming m = .ok (d.signatureText c.naming m)) ∧
        b = ms.flatMap (d.declarationText c) := by
  have one (m : Method) (b : Block) : (Item.declaration m).emit c d = .ok b ↔
      d.signature c.naming m = .ok (d.signatureText c.naming m) ∧ b = d.declarationText c m := by
    constructor
    · intro h
      rw [Item.emit_declaration] at h
      obtain ⟨s, hs, h⟩ := Emission.bind_eq_ok.mp h
      have text := TypeDecl.signatureText_of_ok hs
      cases h
      exact ⟨text.symm ▸ hs, by rw [TypeDecl.declarationText, text]⟩
    · rintro ⟨signed, rfl⟩
      exact Item.emit_declaration_of_ok signed
  rw [Layout.emit, List.map_map]
  exact Block.sequence_map_eq_ok_iff one

/-- The class extension is printed if the hidden methods have signatures. -/
theorem Implementation.classExtension_eq_ok_iff
    (some : ∀ f ∈ d.instanceFields .privateOnly c.options, f.vars ≠ []) {b : Block} :
    classExtension c d d.namesConstructors = .ok b ↔
      (∀ m ∈ d.hiddenMethods c.options,
        d.signature c.naming m = .ok (d.signatureText c.naming m)) ∧
      b = extensionText c d (d.instanceFields .privateOnly c.options)
        (d.hiddenMethods c.options) := by
  unfold classExtension
  cases hidden : d.hasHiddenMembers c.options with
  | false =>
    obtain ⟨fields, methods⟩ := TypeDecl.hasHiddenMembers_eq_false_iff.mp hidden
    rw [fields, methods, if_neg Bool.false_ne_true]
    simp [extensionText, eq_comm]
  | true =>
    have ivars := TypeDecl.instanceVariables_eq_ok_iff.mpr ⟨some, rfl⟩
    rw [extensionText_of_ne (TypeDecl.hasHiddenMembers_iff.mp hidden), if_pos rfl, ivars,
      ← emit_hiddenItems, TypeDecl.flatMap_hiddenItems, ← TypeDecl.headText_instanceFields]
    constructor
    · intro h
      obtain ⟨printed, hprinted, h⟩ := Emission.bind_eq_ok.mp h
      obtain ⟨declarations, hdeclarations, h⟩ := Emission.bind_eq_ok.mp h
      cases hprinted
      obtain ⟨signed, rfl⟩ := Layout.emit_declarations_eq_ok_iff.mp hdeclarations
      cases h
      exact ⟨signed, rfl⟩
    · rintro ⟨signed, rfl⟩
      rw [Layout.emit_declarations_eq_ok_iff.mpr ⟨signed, rfl⟩]
      rfl

/-! ## The guards -/

theorem Visit.emit_eq_ok_iff {σ : Type} {v u : Visit σ} {e : Emission} :
    v.emit e = .ok ((), u) ↔ ∃ b, e = .ok b ∧ u = v.write b := by
  cases e with
  | error f => simp [emit]
  | ok b => simp [eq_comm]

namespace Writer

variable {w : Writer} {fs : List Field}

theorem variablesText_ne_empty_iff : w.variablesText fs ≠ "" ↔ fs ≠ [] := by
  cases fs with
  | nil => simp [variablesText]
  | cons f fs => simp [variablesText]

/-- Statements are printed under the heading. -/
theorem exists_variablesText (h : w.variablesText fs ≠ "") :
    ∃ rest, w.variablesText fs = " @public\n" ++ rest := by
  cases fs with
  | nil => exact absurd rfl h
  | cons f fs => exact ⟨_, rfl⟩

end Writer

/-- What the class extension would declare is declared without it. -/
structure NothingLost (c : Context) (d : TypeDecl) : Prop where
  header : Header.ofType c d = Layout.emit c d (Header.layout c d)
  methods : ∀ m, .method m ∈ d.body → .declaration m ∈ Header.layout c d
  /-- All statements of the body that declare instance variables are
  declared in the header, in order and once each. -/
  statements : (Header.layout c d).statements = d.instanceStatements
  /-- There are no setters to be registered in the extension. -/
  setters : ∀ w : Writer, w.context = c → w.Adds (.fieldSetters d .privateOnly) ""

/-- The guards of the braces and of the class extension answer as the loops
within the blocks do. -/
structure GuardsAgree (c : Context) (d : TypeDecl) : Prop where
  /-- The variables of a place are a text, and one with the heading, exactly
  where the guard of the braces says so. -/
  ivars : ∀ (w : Writer) (v : FieldVisibility), w.context = c →
    ∃ added, w.Adds (.instanceVariables d v) added ∧
      (d.hasInstanceVariables v c.options = true ↔ added ≠ "") ∧
      (added ≠ "" → ∃ rest, added = " @public\n" ++ rest)
  /-- Braces are printed around variables only. -/
  interface : ∀ (v : Visit Header.Visitor) (superclass : String), v.context = c →
    (Header.Visitor.interface d superclass).run v =
      .ok ((), v.write (.blank :: DocComment.block c.detect d.doc ++
        headText c (Header.interfaceLine c.naming d superclass)
          (d.instanceFields .nonPrivate c.options)))
  /-- The extension is printed with what it declares, and not at all where it
  declares nothing. -/
  extension : ∀ v u : Visit Implementation.Visitor, v.context = c →
    v.visitor.isInner = d.namesConstructors →
    ((Implementation.Visitor.classExtension d).run v = .ok ((), u) ↔
      (∀ m ∈ d.hiddenMethods c.options,
        d.signature c.naming m = .ok (d.signatureText c.naming m)) ∧
      u = (v.as ⟨if d.hasHiddenMembers c.options then .extension else v.visitor.stage,
        v.visitor.isInner⟩).write (Implementation.extensionText c d
          (d.instanceFields .privateOnly c.options) (d.hiddenMethods c.options)))
  hidden : d.hasHiddenMembers c.options = true ↔
    (∃ f ∈ d.instanceFields .privateOnly c.options, ∃ x, x ∈ f.vars) ∨
      ∃ m, m ∈ d.hiddenMethods c.options
  skipped : d.hasHiddenMembers c.options = false → NothingLost c d

/-- Without hidden members the header declares all methods of the body. -/
theorem Header.declaration_mem_layout (hk : d.kind ≠ .annotationDecl)
    (hidden : d.hasHiddenMembers c.options = false) (hm : .method m ∈ d.body) :
    .declaration m ∈ layout c d := by
  have none := (TypeDecl.hasHiddenMembers_eq_false_iff.mp hidden).2
  have visible : m.modifiers.isHidden c.options = false := by
    rw [← Bool.not_eq_true]
    intro h
    exact List.ne_nil_of_mem (TypeDecl.mem_hiddenMethods_iff.mpr ⟨hm, h⟩) none
  have declared : .declaration m ∈ memberItems c.options (.method m) := by
    rw [memberItems, visible]
    exact List.mem_singleton_self _
  refine List.mem_append_left _ (List.mem_append_right _ ?_)
  rw [declarationItems_of_ne hk]
  exact List.mem_flatMap.mpr ⟨_, TypeDecl.mem_allMembers_of_mem_body hm, declared⟩

/-- Where the class extension is left out, it would have declared
nothing. -/
theorem nothingLost (hk : d.kind ≠ .annotationDecl)
    (hidden : d.hasHiddenMembers c.options = false) : NothingLost c d where
  header := Header.ofType_eq_emit c d
  methods m hm := Header.declaration_mem_layout hk hidden hm
  statements := by
    have none := (TypeDecl.hasHiddenMembers_eq_false_iff.mp hidden).1
    rw [Header.statements_eq_filter hk, List.filter_eq_self]
    intro f hf
    rw [TypeDecl.instanceStatements_eq_filter] at hf
    obtain ⟨member, onInstance⟩ := List.mem_filter.mp hf
    -- a statement hidden from the header is one of the extension
    cases h : f.modifiers.isHidden c.options with
    | false => rfl
    | true =>
      have ofExtension := (Bool.and_eq_true_iff.mp h).2
      have placed : f ∈ d.instanceFields .privateOnly c.options := by
        refine List.mem_filter.mpr ⟨member, ?_⟩
        rw [Field.isInstanceFieldOf, FieldVisibility.includes_privateOnly, ofExtension,
          (Bool.and_eq_true_iff.mp onInstance).1]
        rfl
      exact absurd none (List.ne_nil_of_mem placed)
  setters w hw := by
    have none := (TypeDecl.hasHiddenMembers_eq_false_iff.mp hidden).1
    have nothing : (Piece.fieldSetters d .privateOnly).block w.context = .ok [] := by
      rw [Piece.block, hw, TypeDecl.fieldSetters, none]
      rfl
    exact Writer.adds_of_block nothing

/-- The class extension is printed as the text of what it declares. -/
theorem Implementation.Visitor.run_classExtension_eq_ok_iff
    (some : ∀ f ∈ d.instanceFields .privateOnly c.options, f.vars ≠ []) {v u : Visit Visitor}
    (hc : v.context = c) (inner : v.visitor.isInner = d.namesConstructors) :
    (classExtension d).run v = .ok ((), u) ↔
      (∀ m ∈ d.hiddenMethods c.options,
        d.signature c.naming m = .ok (d.signatureText c.naming m)) ∧
      u = (v.as ⟨if d.hasHiddenMembers c.options then .extension else v.visitor.stage,
        v.visitor.isInner⟩).write (extensionText c d
          (d.instanceFields .privateOnly c.options) (d.hiddenMethods c.options)) := by
  rw [run_classExtension c d hc, inner, Visit.emit_eq_ok_iff]
  constructor
  · rintro ⟨b, hb, rfl⟩
    obtain ⟨signed, rfl⟩ := (classExtension_eq_ok_iff some).mp hb
    exact ⟨signed, rfl⟩
  · rintro ⟨signed, rfl⟩
    exact ⟨_, (classExtension_eq_ok_iff some).mpr ⟨signed, rfl⟩, rfl⟩

/-- Members are hidden if there is a variable or a method for the
extension. -/
theorem TypeDecl.hasHiddenMembers_iff_exists
    (some : ∀ f ∈ d.instanceFields .privateOnly o, f.vars ≠ []) :
    d.hasHiddenMembers o = true ↔
      (∃ f ∈ d.instanceFields .privateOnly o, ∃ x, x ∈ f.vars) ∨
        ∃ m, m ∈ d.hiddenMethods o := by
  rw [hasHiddenMembers_iff]
  constructor
  · rintro (fields | methods)
    · obtain ⟨f, hf⟩ := List.exists_mem_of_ne_nil _ fields
      exact .inl ⟨f, hf, List.exists_mem_of_ne_nil _ (some f hf)⟩
    · exact .inr (List.exists_mem_of_ne_nil _ methods)
  · rintro (⟨f, hf, -⟩ | ⟨m, hm⟩)
    · exact .inl (List.ne_nil_of_mem hf)
    · exact .inr (List.ne_nil_of_mem hm)

/-- For a class or enum whose statements have variables, the guards of its
blocks agree with what is declared in them. -/
theorem guardsAgree (hk : d.kind ≠ .annotationDecl) (hf : ∀ f ∈ d.fields, f.vars ≠ []) :
    GuardsAgree c d := by
  have some (v : FieldVisibility) : ∀ f ∈ d.instanceFields v c.options, f.vars ≠ [] :=
    fun f h => hf f (List.mem_of_mem_filter h)
  refine ⟨?ivars, ?interface, ?extension, TypeDecl.hasHiddenMembers_iff_exists (some _),
    nothingLost hk⟩
  case ivars =>
    rintro w v rfl
    refine ⟨_, Writer.adds_instanceVariables_iff.mpr ⟨some v, rfl⟩, ?_,
      Writer.exists_variablesText⟩
    rw [TypeDecl.hasInstanceVariables_iff, Writer.variablesText_ne_empty_iff]
  case interface =>
    intro v superclass hc
    rw [(Header.Visitor.prints_interface c v.visitor d superclass).run hc rfl,
      Header.interface_eq_ok (some .nonPrivate)]
    rfl
  case extension =>
    intro v u hc inner
    exact Implementation.Visitor.run_classExtension_eq_ok_iff (some .privateOnly) hc inner

/-- A class with a private field and a private constructor. -/
def vault : TypeDecl :=
  { kind := .classDecl
    type := .ofClass "Vault"
    body :=
      [.field { modifiers := ⟨[.privateAccess]⟩, type := .string, vars := [⟨"code", {}⟩] },
       .method { Method.constructorOf (.ofClass "Vault") with
        modifiers := ⟨[.privateAccess]⟩ }] }

/-- With private members hidden, both are declared in the class
extension. -/
theorem guardsAgree_vault :
    vault.kind ≠ .annotationDecl ∧ (∀ f ∈ vault.fields, f.vars ≠ []) ∧
    vault.hasHiddenMembers { hidePrivate := true } = true ∧
    GuardsAgree (SourceUnit.context { hidePrivate := true }) vault := by
  have hk : vault.kind ≠ .annotationDecl := by decide
  have hf : ∀ f ∈ vault.fields, f.vars ≠ [] := by decide
  exact ⟨hk, hf, by decide, guardsAgree hk hf⟩

end ObjcDecl
