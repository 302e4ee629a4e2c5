import ObjcDecl.GeneratedFiles
import ObjcDecl.Proofs.Layout.Parts

/-!
# File-level symbols

The static variables and functions of a type become symbols of the target
that other files link against. The header exports them, the
implementation defines them, and each decides on its own which of them
there are: the header skips primitive constants one by one where the
implementation leaves them out beforehand, and functions are visited in
three places.

For classes and enums the two agree (`SymbolsAgree`): in the order and
the text of the static storage, in the prototypes and definitions of
functions, and on whether there is a class initializer. An annotation
type exports by the same rules, but its implementation has a fixed text
that defines none of this. Its exports are defined exactly if there are
none (`exportsDefined_annotation_iff`).
-/

namespace ObjcDecl

/-! ## The texts of symbols -/

/-- The declarators of the static variables of a body that have storage:
all but the primitive constants. -/
def TypeDecl.storageDeclarators (names : Naming) (d : TypeDecl) : List String :=
  ((d.body.flatMap Member.variables).filter fun p =>
      p.2.binding.isStatic && !p.2.binding.isPrimitiveConstant).map fun p =>
    typedName (names.typeText p.1.type)
      (names.fullName d.type ++ "_" ++ names.variableName p.2.name)

/-- The export of a declarator. -/
def exportLine (declarator : String) : Line := .flush ("FOUNDATION_EXPORT " ++ declarator ++ ";")

/-- The definition of a declarator. -/
def storageLine (declarator : String) : Line := .flush (declarator ++ ";")

/-- The prototype of a function in the header. -/
def Function.exportedPrototype (names : Naming) (f : Function) : Block :=
  [.blank, exportLine (Signature.function names f)]

/-- The prototype of a private function in the implementation. -/
def Function.unusedPrototype (names : Naming) (f : Function) : Block :=
  [.blank, .flush ("__attribute__((unused)) static " ++ Signature.function names f ++ ";")]

/-- The definition of a function. -/
def Function.definition (names : Naming) (f : Function) : Block :=
  definitionLines ((if f.isPrivate then "static " else "") ++ Signature.function names f) f.body

/-- The class initializer of a type of the given name. The statements run
for the type itself, and not again for its subclasses. -/
def initializerLines (fullName : String) (statements : List String) : Block :=
  [.blank, .flush "+ (void)initialize \x7b",
   .nested 1 ("if (self == [" ++ fullName ++ " class]) \x7b")] ++
    statements.map (.nested 2 ·) ++
    [.nested 2 ("J2OBJC_SET_INITIALIZED(" ++ fullName ++ ")"), .nested 1 "\x7d", .flush "\x7d"]

/-! ## What two files have to agree on -/

/-- The function that an item declares or defines. -/
def Item.function : Item → Option Function
  | .exportedPrototype f | .privatePrototype f | .functionDefinition f => some f
  | _ => none

/-- The functions that have prototypes in a layout. -/
def Layout.prototyped (l : Layout) : List Function :=
  (l.part .exportedPrototype ++ l.part .privatePrototype).filterMap Item.function

/-- The functions that a layout defines. -/
def Layout.defined (l : Layout) : List Function :=
  (l.part .functionDefinition).filterMap Item.function

/-- Two files agree on the file-level symbols of a type. -/
structure SymbolsAgree (c : Context) (d : TypeDecl) (header implementation : Layout) : Prop where
  /-- The exported storage is the defined storage, one declarator after the
  other. -/
  exports : Layout.emit c d (header.part .storageExport) =
    .ok ((d.storageDeclarators c.naming).map exportLine)
  storage : Layout.emit c d (implementation.part .storage) =
    .ok ((d.storageDeclarators c.naming).map storageLine)
  /-- Every function has one prototype in one of the files, -/
  prototyped : (header.prototyped ++ implementation.prototyped).Perm d.functions
  /-- which is the header unless the function is private, -/
  exportedPrototypes : Layout.emit c d (header.part .exportedPrototype) =
    .ok ((d.functions.filter fun f => !f.isPrivate).flatMap (Function.exportedPrototype c.naming))
  unusedPrototypes : Layout.emit c d (implementation.part .privatePrototype) =
    .ok ((d.functions.filter fun f => f.isPrivate).flatMap (Function.unusedPrototype c.naming))
  /-- and one definition, in the implementation. -/
  defined : header.defined ++ implementation.defined = d.functions
  definitions : Layout.emit c d (implementation.part .functionDefinition) =
    .ok (d.functions.flatMap (Function.definition c.naming))
  /-- An enum has a class initializer, and a class where statements have to
  run. -/
  initializes : d.initializes = true ↔ d.kind = .enumDecl ∨ d.classInit ≠ []
  /-- The header announces a class initializer where the implementation has
  one. -/
  announcement : Layout.emit c d (header.part .initialization) =
    .ok [.blank, .flush ((if d.initializes then "J2OBJC_STATIC_INIT"
      else "J2OBJC_EMPTY_STATIC_INIT") ++ "(" ++ c.naming.fullName d.type ++ ")")]
  initializer : Layout.emit c d (implementation.part .initializer) =
    .ok (if d.initializes then initializerLines (c.naming.fullName d.type) d.classInit else [])
  /-- Nothing of this stands in the other file. -/
  headerDefinesNothing : ∀ r ∈ [Role.definition, .storage, .privatePrototype,
    .functionDefinition, .initializer], header.part r = []
  implementationExportsNothing : ∀ r ∈ [Role.storageExport, .accessor, .exportedPrototype,
    .initialization], implementation.part r = []

/-! ## The symbols of a class or enum -/

variable {c : Context} {d : TypeDecl}

theorem TypeDecl.map_storedVariables (names : Naming) (d : TypeDecl) :
    d.storedVariables.map (fun p => d.storageDeclarator names p.1 p.2) =
      d.storageDeclarators names := by
  rw [storedVariables, vars_eq_flatMap_body]
  simp only [storageDeclarator, declarator_eq]
  rfl

/-- Only an annotation type has no use for its statements. -/
theorem TypeDecl.initializes_iff (hk : d.kind ≠ .annotationDecl) :
    d.initializes = true ↔ d.kind = .enumDecl ∨ d.classInit ≠ [] := by
  unfold initializes hasInitialize
  cases kind : d.kind with
  | annotationDecl => exact absurd kind hk
  | classDecl => simp
  | enumDecl => simp

theorem filterMap_function {i : Function → Item} (h : ∀ f, (i f).function = some f)
    (fs : List Function) : (fs.map i).filterMap Item.function = fs := by
  have each : Item.function ∘ i = some := funext h
  rw [List.filterMap_map, each, List.filterMap_some]

namespace Header

theorem emit_storageExport : Layout.emit c d ((layout c d).part .storageExport) =
    .ok ((d.storageDeclarators c.naming).map exportLine) := by
  rw [part_storageExport, ← TypeDecl.map_storedVariables, List.map_map]
  exact Layout.emit_map_lines fun _ _ => rfl

theorem emit_exportedPrototype : Layout.emit c d ((layout c d).part .exportedPrototype) =
    .ok ((d.functions.filter fun f => !f.isPrivate).flatMap
      (Function.exportedPrototype c.naming)) := by
  rw [part_exportedPrototype]
  exact Layout.emit_map_of_forall fun _ _ => rfl

/-- The header has prototypes of the functions that are not private. -/
theorem prototyped_layout : (layout c d).prototyped = d.functions.filter fun f => !f.isPrivate := by
  rw [Layout.prototyped, part_exportedPrototype, part_eq_nil (by decide), List.append_nil]
  exact filterMap_function (fun _ => rfl) _

end Header

namespace Implementation

theorem emit_storage (hk : d.kind ≠ .annotationDecl) :
    Layout.emit c d ((layout c d).part .storage) =
      .ok ((d.storageDeclarators c.naming).map storageLine) := by
  rw [part_storage hk, ← TypeDecl.map_storedVariables, List.map_map]
  exact Layout.emit_map_lines fun _ _ => rfl

theorem emit_privatePrototype (hk : d.kind ≠ .annotationDecl) :
    Layout.emit c d ((layout c d).part .privatePrototype) =
      .ok ((d.functions.filter fun f => f.isPrivate).flatMap
        (Function.unusedPrototype c.naming)) := by
  rw [part_privatePrototype hk]
  exact Layout.emit_map_of_forall fun _ _ => rfl

theorem emit_functionDefinition (hk : d.kind ≠ .annotationDecl) :
    Layout.emit c d ((layout c d).part .functionDefinition) =
      .ok (d.functions.flatMap (Function.definition c.naming)) := by
  rw [part_functionDefinition hk]
  exact Layout.emit_map_of_forall fun _ _ => rfl

theorem emit_initializer_part (hk : d.kind ≠ .annotationDecl) :
    Layout.emit c d ((layout c d).part .initializer) =
      .ok (if d.initializes then initializerLines (c.naming.fullName d.type) d.classInit else []) := by
  rw [part_initializer hk]
  exact emit_initializer _

/-- The implementation has prototypes of the private functions. -/
theorem prototyped_layout (hk : d.kind ≠ .annotationDecl) :
    (layout c d).prototyped = d.functions.filter fun f => f.isPrivate := by
  rw [Layout.prototyped, part_eq_nil (by decide), part_privatePrototype hk, List.nil_append]
  exact filterMap_function (fun _ => rfl) _

/-- The implementation defines all functions. -/
theorem defined_layout (hk : d.kind ≠ .annotationDecl) : (layout c d).defined = d.functions := by
  rw [Layout.defined, part_functionDefinition hk]
  exact filterMap_function (fun _ => rfl) _

end Implementation

/-- Every function of a class or enum has one prototype over the two
files. -/
theorem prototyped_perm (c : Context) (hk : d.kind ≠ .annotationDecl) :
    ((Header.layout c d).prototyped ++ (Implementation.layout c d).prototyped).Perm
      d.functions := by
  rw [Header.prototyped_layout, Implementation.prototyped_layout hk]
  have split := List.filter_append_perm (fun f : Function => f.isPrivate) d.functions
  exact List.perm_append_comm.trans split

/-- The two files of a class or enum are the texts of two layouts that
agree on the file-level symbols of the type: on the declarators of its
static storage, on the signatures of its functions, and on whether it has
a class initializer. -/
theorem symbolsAgree_of_ne (c : Context) (d : TypeDecl) (hk : d.kind ≠ .annotationDecl) :
    Header.ofType c d = Layout.emit c d (Header.layout c d) ∧
    Implementation.ofType c d = Layout.emit c d (Implementation.layout c d) ∧
    SymbolsAgree c d (Header.layout c d) (Implementation.layout c d) := by
  refine ⟨Header.ofType_eq_emit c d, Implementation.ofType_eq_emit c d, ?_⟩
  exact
    { exports := Header.emit_storageExport
      storage := Implementation.emit_storage hk
      prototyped := prototyped_perm c hk
      exportedPrototypes := Header.emit_exportedPrototype
      unusedPrototypes := Implementation.emit_privatePrototype hk
      defined := by
        rw [Layout.defined, Header.part_eq_nil (by decide), Implementation.defined_layout hk]
        rfl
      definitions := Implementation.emit_functionDefinition hk
      initializes := TypeDecl.initializes_iff hk
      announcement := by
        rw [Header.part_initialization, Layout.emit_singleton]
        rfl
      initializer := Implementation.emit_initializer_part hk
      headerDefinesNothing := fun _ hr => Header.part_eq_nil hr
      implementationExportsNothing := fun _ hr => Implementation.part_eq_nil hr }

/-- A class with two static variables, one of them a constant, and two
functions, one of them private. -/
def gauge : TypeDecl :=
  { kind := .classDecl
    type := .ofClass "Gauge"
    body :=
      [.field
        { modifiers := ⟨[.staticMember]⟩
          type := .primitive "int"
          vars := [⟨"MAX", { isStatic := true, isPrimitiveConstant := true }⟩,
            ⟨"level", { isStatic := true }⟩] },
       .function { name := "Gauge_read", returnType := .primitive "int" },
       .function { name := "Gauge_reset", returnType := .void, modifiers := ⟨[.privateAccess]⟩ }] }

/-- The files of the class agree on its variable `level` and its two
functions. -/
theorem symbolsAgree_gauge :
    gauge.kind ≠ .annotationDecl ∧
    SymbolsAgree (SourceUnit.context {}) gauge (Header.layout (SourceUnit.context {}) gauge)
      (Implementation.layout (SourceUnit.context {}) gauge) := by
  have hk : gauge.kind ≠ .annotationDecl := by decide
  exact ⟨hk, (symbolsAgree_of_ne _ gauge hk).2.2⟩

/-! ## The exports of an annotation type -/

/-- The symbol of an exported or defined variable or function. -/
def Item.symbol (c : Context) (d : TypeDecl) : Item → Option String
  | .storageExport _ v | .storage _ v => some (d.storageName c.naming v)
  | .exportedPrototype f | .functionDefinition f => some f.name
  | _ => none

/-- The symbols of static variables and functions that a layout exports. -/
def Layout.exportedSymbols (c : Context) (d : TypeDecl) (l : Layout) : List String :=
  (l.part .storageExport ++ l.part .exportedPrototype).filterMap (Item.symbol c d)

/-- The symbols of static variables and functions that a layout defines. -/
def Layout.definedSymbols (c : Context) (d : TypeDecl) (l : Layout) : List String :=
  (l.part .storage ++ l.part .functionDefinition).filterMap (Item.symbol c d)

/-- Every symbol that the header exports for a type is defined once in the
implementation. -/
def ExportsDefined (c : Context) (d : TypeDecl) (header implementation : Layout) : Prop :=
  ∀ s ∈ header.exportedSymbols c d, (implementation.definedSymbols c d).count s = 1

theorem filterMap_symbol {α : Type} {i : α → Item} (name : α → String)
    (h : ∀ x, (i x).symbol c d = some (name x)) (l : List α) :
    (l.map i).filterMap (Item.symbol c d) = l.map name := by
  have each : Item.symbol c d ∘ i = some ∘ name := funext h
  rw [List.filterMap_map, each, List.filterMap_eq_map]

/-- The header exports the stored variables and the functions that are not
private, for a type of any kind. -/
theorem Header.exportedSymbols_layout (c : Context) (d : TypeDecl) :
    (layout c d).exportedSymbols c d =
      d.storedVariables.map (fun p => d.storageName c.naming p.2) ++
        (d.functions.filter fun f => !f.isPrivate).map Function.name := by
  rw [Layout.exportedSymbols, part_storageExport, part_exportedPrototype, List.filterMap_append,
    filterMap_symbol (fun p => d.storageName c.naming p.2) fun _ => rfl,
    filterMap_symbol Function.name fun _ => rfl]

/-- The implementation of an annotation type defines no such symbol. -/
theorem Implementation.definedSymbols_annotation (c : Context) (hk : d.kind = .annotationDecl) :
    (layout c d).definedSymbols c d = [] := by
  rw [Layout.definedSymbols, part_layout_annotation hk (by decide),
    part_layout_annotation hk (by decide)]
  rfl

/-- The two files of an annotation type are the texts of two layouts. The
header exports the storage of all static variables but primitive constants
and the prototypes of all functions that are not private, while the
implementation has nothing but fixed text. So the exports are defined
exactly if there are none. -/
theorem exportsDefined_annotation_iff (c : Context) (d : TypeDecl) (hk : d.kind = .annotationDecl) :
    Header.ofType c d = Layout.emit c d (Header.layout c d) ∧
    Implementation.ofType c d = Layout.emit c d (Implementation.layout c d) ∧
    Layout.emit c d ((Header.layout c d).part .storageExport) =
      .ok ((d.storageDeclarators c.naming).map exportLine) ∧
    Layout.emit c d ((Header.layout c d).part .exportedPrototype) =
      .ok ((d.functions.filter fun f => !f.isPrivate).flatMap
        (Function.exportedPrototype c.naming)) ∧
    (∀ r, r ≠ .frame → (Implementation.layout c d).part r = []) ∧
    (ExportsDefined c d (Header.layout c d) (Implementation.layout c d) ↔
      d.storedVariables = [] ∧ ∀ f ∈ d.functions, f.isPrivate = true) := by
  refine ⟨Header.ofType_eq_emit c d, Implementation.ofType_eq_emit c d,
    Header.emit_storageExport, Header.emit_exportedPrototype,
    fun _ hr => Implementation.part_layout_annotation hk hr.symm, ?_⟩
  have nothing : ExportsDefined c d (Header.layout c d) (Implementation.layout c d) ↔
      (Header.layout c d).exportedSymbols c d = [] := by
    rw [ExportsDefined, Implementation.definedSymbols_annotation c hk,
      List.eq_nil_iff_forall_not_mem]
    exact forall₂_congr fun _ _ => iff_of_false Nat.zero_ne_one id
  rw [nothing, Header.exportedSymbols_layout, List.append_eq_nil_iff, List.map_eq_nil_iff,
    List.map_eq_nil_iff, List.filter_eq_nil_iff]
  simp only [Bool.not_eq_true', Bool.not_eq_false]

/-- An annotation type with one member. -/
def mark : TypeDecl :=
  { kind := .annotationDecl
    type := .named .interfaceType "Mark"
    body := [.annotationMember ⟨"value", .string⟩] }

/-- The annotation type exports nothing, so nothing is left undefined. -/
theorem exportsDefined_mark :
    mark.kind = .annotationDecl ∧
    ExportsDefined (SourceUnit.context {}) mark (Header.layout (SourceUnit.context {}) mark)
      (Implementation.layout (SourceUnit.context {}) mark) := by
  have none : mark.storedVariables = [] ∧ ∀ f ∈ mark.functions, f.isPrivate = true :=
    ⟨rfl, fun _ hf => nomatch hf⟩
  exact ⟨rfl, (exportsDefined_annotation_iff _ mark rfl).2.2.2.2.2.mpr none⟩

/-- The annotation type with a static variable in place of its member. -/
def storedMark : TypeDecl :=
  { mark with
    body := [.field
      { modifiers := ⟨[.staticMember]⟩
        type := .string
        vars := [⟨"NONE", { isStatic := true }⟩] }] }

/-- Its header exports the storage of the variable, and its implementation
does not define it. -/
theorem not_exportsDefined_storedMark :
    ¬ ExportsDefined (SourceUnit.context {}) storedMark
      (Header.layout (SourceUnit.context {}) storedMark)
      (Implementation.layout (SourceUnit.context {}) storedMark) := by
  intro once
  exact absurd (once "Mark_NONE" (by decide)) (by decide)

end ObjcDecl
