import ObjcDecl.GeneratedFiles
import ObjcDecl.Proofs.Annotations
import ObjcDecl.Proofs.Layout.Header
import ObjcDecl.Proofs.Layout.Implementation
import Mathlib.Data.List.Basic

/-!
# Where methods are declared and defined

A method is declared in the header or, if it is hidden, in the class
extension, and it is defined in the implementation. Three visits of one
body do this, each with hooks of its own, and a method that one visit
skips, repeats or puts under another selector is an error of the compiler
or the linker.

The signature of a method depends on the type and the method alone
(`TypeDecl.signature`), and the layouts of the two files name the methods
in the order of the members. So the text of the three visits can be given
in closed form: the declarations and definitions of all members in a row,
the hidden ones among the declarations moved to the class extension
(`MethodTexts`).
-/

namespace ObjcDecl

/-! ## Signatures -/

namespace TypeDecl

/-- The signature of a method or constructor of the type. -/
def signature (names : Naming) (d : TypeDecl) (m : Method) : Except Fault String :=
  if m.isConstructor then Signature.constructor names m d.namesConstructors
  else Signature.normalMethod names m

/-- The text of a signature, empty where there is none. -/
def signatureText (names : Naming) (d : TypeDecl) (m : Method) : String :=
  (d.signature names m).toOption.getD ""

theorem signatureText_of_ok {names : Naming} {d : TypeDecl} {m : Method} {s : String}
    (h : d.signature names m = .ok s) : d.signatureText names m = s := by
  rw [signatureText, h]
  rfl

end TypeDecl

/-- Words from which the compiler infers ownership, if a selector starts
with one of them. -/
def ownershipWords : List String := ["new", "copy", "alloc", "init", "mutableCopy"]

namespace Method

/-- Whether a method has to be marked against inferred ownership: a normal
one that is present in the source, under a selector that starts with an
ownership word. -/
def InfersOwnership (names : Naming) (m : Method) : Prop :=
  m.isConstructor = false ∧ m.modifiers.isSynthetic = false ∧
    ∃ word ∈ ownershipWords, word.toList <+: (names.selector m).toList

instance (names : Naming) : DecidablePred (InfersOwnership names) := fun m =>
  inferInstanceAs (Decidable (m.isConstructor = false ∧ m.modifiers.isSynthetic = false ∧
    ∃ word ∈ ownershipWords, word.toList <+: (names.selector m).toList))

/-- The declaration of a method under a signature: a blank line, its
comment, the signature and the marks that it needs. -/
def declared (c : Context) (m : Method) (signature : String) : Block :=
  .blank :: commentLines c.detect m.doc ++
    [.flush (signature ++
      (if m.InfersOwnership c.naming then " OBJC_METHOD_FAMILY_NONE" else "") ++
      (if c.options.emitDeprecated && m.IsMarked then " __attribute__((deprecated))" else "") ++
      ";")]

/-- The body that a method is defined with. A constructor without
statements creates an instance of the superclass, and an abstract method
reports the call. -/
def definedBody (m : Method) : List String :=
  if m.isConstructor then
    if m.body = [] then ["return [super init];"] else m.body
  else if m.modifiers.contains .abstract then
    ["// can't call an abstract method", "[self doesNotRecognizeSelector:_cmd];"] ++
      if m.returnType.isVoid then [] else ["return 0;"]
  else m.body

/-- The definition of a method under a signature. -/
def defined (m : Method) (signature : String) : Block :=
  definitionLines signature m.definedBody

end Method

/-! ## Marks and bodies -/

variable {c : Context} {d : TypeDecl} {m : Method}

/-- The first segment of a selector ends at the first colon, and no
ownership word has a colon. -/
theorem Attribute.needsFamilyNone_iff (selector : String) :
    needsFamilyNone selector = true ↔
      ∃ word ∈ ownershipWords, word.toList <+: selector.toList := by
  have plain : ∀ word ∈ ownershipWords, ':' ∉ word.toList ∧ word.toList ≠ [] := by decide
  unfold needsFamilyNone Selector.segments
  cases pieces : Text.splitTerminated ':' selector.toList with
  | nil =>
    rw [Text.eq_nil_of_splitTerminated pieces]
    simp only [List.map_nil, Bool.false_eq_true, List.prefix_nil, false_iff, not_exists, not_and]
    exact fun word hword => (plain word hword).2
  | cons p ps =>
    simp only [List.map_cons, familyHeads, String.toList_ofList]
    rw [List.any_eq_true]
    refine exists_congr fun word => and_congr_right fun hword => ?_
    rw [List.isPrefixOf_iff_prefix, Text.isPrefix_piece_iff (plain word hword).1 pieces]

theorem Attribute.familyNone_eq (names : Naming) (h : m.isConstructor = false) :
    familyNone m (names.selector m) =
      if m.InfersOwnership names then " OBJC_METHOD_FAMILY_NONE" else "" := by
  rw [familyNone]
  refine if_congr ?_ rfl rfl
  rw [Bool.and_eq_true, Bool.not_eq_true', needsFamilyNone_iff, Method.InfersOwnership]
  simp only [h, true_and]

theorem Attribute.deprecated_eq (o : Options) (m : Method) :
    deprecated o m.annotations =
      if o.emitDeprecated && m.IsMarked then " __attribute__((deprecated))" else "" := by
  rw [deprecated, marksDeprecated]
  refine if_congr ?_ rfl rfl
  rw [Bool.and_eq_true, Bool.and_eq_true, hasDeprecation_iff, decide_eq_true_iff]

namespace Item

/-- A declaration needs the signature and nothing else. -/
theorem emit_declaration (c : Context) (d : TypeDecl) (m : Method) :
    (Item.declaration m).emit c d = (do
      let s ← d.signature c.naming m
      pure (m.declared c s)) := by
  simp only [emit, TypeDecl.signature, Method.declared, ← DocComment.block_eq,
    ← Attribute.deprecated_eq]
  cases kind : m.isConstructor with
  | true =>
    -- a constructor belongs to the family that its selector names, and has no such mark
    have unmarked : ¬ m.InfersOwnership c.naming := fun h => by simp [h.1] at kind
    simp only [if_true, if_neg unmarked, String.append_empty]
    rfl
  | false =>
    simp only [Bool.false_eq_true, if_false, ← Attribute.familyNone_eq c.naming kind]
    rfl

/-- A definition needs the same signature as the declaration. -/
theorem emit_definition (c : Context) (d : TypeDecl) (m : Method) :
    (Item.definition m).emit c d = (do
      let s ← d.signature c.naming m
      pure (m.defined s)) := by
  have constructor : Implementation.constructorBody m =
      if m.body = [] then ["return [super init];"] else m.body :=
    if_congr List.isEmpty_iff rfl rfl
  simp only [emit, MemberHooks.method, TypeDecl.signature, Method.defined, Method.definedBody,
    ← Implementation.braced_eq]
  cases m.isConstructor with
  | true =>
    simp only [if_true, ← constructor]
    rfl
  | false => rfl

end Item

/-! ## The texts of the members -/

namespace TypeDecl

/-- The declaration of a method of the type. -/
def declarationText (c : Context) (d : TypeDecl) (m : Method) : Block :=
  m.declared c (d.signatureText c.naming m)

/-- The definition of a method of the type, under the signature that it is
declared with. -/
def definitionText (names : Naming) (d : TypeDecl) (m : Method) : Block :=
  m.defined (d.signatureText names m)

/-- All methods of the type have signatures. -/
def Signed (names : Naming) (d : TypeDecl) : Prop :=
  ∀ m, .method m ∈ d.allMembers names → d.signature names m = .ok (d.signatureText names m)

theorem mem_allMembers_of_mem_body {names : Naming} {x : Member} (hx : x ∈ d.body) :
    x ∈ d.allMembers names :=
  List.mem_append_right _ hx

/-- The methods that a type has by its kind are public. -/
theorem areLeftOut_of_mem_supportMethods {names : Naming} (hm : m ∈ d.supportMethods names)
    (o : Options) : m.modifiers.areLeftOut o = false := by
  unfold supportMethods at hm
  split at hm
  · rcases List.mem_pair.mp hm with rfl | rfl
    · exact Bool.and_false _
    · exact Bool.and_false _
  · cases hm

end TypeDecl

/-- What the header's interface says of a member. -/
def Header.memberText (c : Context) (d : TypeDecl) : Member → Block
  | .method m => if m.modifiers.areLeftOut c.options then [] else d.declarationText c m
  | .native n => nativeLines n.headerCode
  | _ => []

/-- What the class extension says of a member. -/
def Implementation.hiddenText (c : Context) (d : TypeDecl) : Member → Block
  | .method m => if m.modifiers.areLeftOut c.options then d.declarationText c m else []
  | _ => []

/-- What the implementation says of a member among the definitions. -/
def Implementation.memberText (c : Context) (d : TypeDecl) : Member → Block
  | .method m => d.definitionText c.naming m
  | .native n => nativeLines n.implementationCode
  | _ => []

/-- A class extension declares the hidden methods. It is left out where no
member is hidden, and then no hidden method is lost with it. -/
inductive ExtensionText (c : Context) (d : TypeDecl) : Block → Prop where
  | absent (h : d.hasHiddenMembers c.options = false)
      (none : d.body.flatMap (Implementation.hiddenText c d) = []) : ExtensionText c d []
  | present (h : d.hasHiddenMembers c.options = true) {head ivars : Block}
      (hhead : (Item.extensionHead (d.instanceFields .privateOnly c.options)).emit c d = .ok head)
      (opening : head = .blank :: bracedVariables
        ("@interface " ++ c.naming.fullName d.type ++ " ()")
        (d.instanceFields .privateOnly c.options) ivars) :
      ExtensionText c d (head ++ d.body.flatMap (Implementation.hiddenText c d) ++
        endLines ++ d.fieldSetters c .privateOnly)

/-- The text ends with the first line of the type's interface and the
instance variables. -/
def Header.EndsInInterface (c : Context) (d : TypeDecl) (text : Block) : Prop :=
  ∃ before supertypes ivars, text = before ++
    bracedVariables ("@interface " ++ c.naming.fullName d.type ++ supertypes)
      (d.instanceFields .nonPrivate c.options) ivars

/-- What two files say of the methods of a type. -/
structure MethodTexts (c : Context) (d : TypeDecl) (header implementation : Block) : Prop where
  signed : d.Signed c.naming
  /-- The methods of every enum are two. -/
  support : d.supportMethods c.naming =
    if d.kind = .enumDecl then [d.valuesMethod c.naming, d.valueOfMethod c.naming] else []
  /-- Between its head and its end, the header's interface declares what is
  not hidden. -/
  interface : ∃ head tail,
    Layout.emit c d (Header.headItems c d) = .ok head ∧
    Layout.emit c d (Header.valuesItems d ++ Header.trailerItems c.options d) = .ok tail ∧
    Header.EndsInInterface c d head ∧
    header = head ++ ((d.supportMethods c.naming).flatMap (d.declarationText c) ++
      d.body.flatMap (Header.memberText c d)) ++ endLines ++ tail
  /-- The implementation declares what is hidden and defines everything. -/
  definitions : ∃ extension statics tail,
    ExtensionText c d extension ∧
    Layout.emit c d (d.body.flatMap Implementation.prototypeItems ++
      Implementation.storageItems d) = .ok statics ∧
    Layout.emit c d (Implementation.tailItems d) = .ok tail ∧
    implementation = extension ++ statics ++
      [.blank, .flush ("@implementation " ++ c.naming.fullName d.type)] ++
      ((d.supportMethods c.naming).flatMap (d.definitionText c.naming) ++
        d.body.flatMap (Implementation.memberText c d)) ++ tail

/-! ## The items of the members print the texts -/

theorem Item.emit_declaration_of_ok
    (h : d.signature c.naming m = .ok (d.signatureText c.naming m)) :
    (Item.declaration m).emit c d = .ok (d.declarationText c m) := by
  rw [emit_declaration, h]
  rfl

theorem Item.emit_definition_of_ok
    (h : d.signature c.naming m = .ok (d.signatureText c.naming m)) :
    (Item.definition m).emit c d = .ok (d.definitionText c.naming m) := by
  rw [emit_definition, h]
  rfl

/-- An implementation defines all methods, so all of them have signatures
if there is one. -/
theorem TypeDecl.signed_of_implementation (hk : d.kind ≠ .annotationDecl) {implementation : Block}
    (h : Implementation.ofType c d = .ok implementation) : d.Signed c.naming := by
  rw [Implementation.ofType_eq_emit, Implementation.layout_of_ne hk] at h
  obtain ⟨before, _, hbefore, _, _⟩ := Layout.emit_append_eq_ok.mp h
  obtain ⟨_, definitions, _, hdefinitions, _⟩ := Layout.emit_append_eq_ok.mp hbefore
  intro m hm
  obtain ⟨text, htext⟩ := Layout.exists_emit_of_emit_flatMap hdefinitions hm
  rw [Implementation.definitionItems, Layout.emit_singleton, Item.emit_definition] at htext
  obtain ⟨s, hs, -⟩ := Emission.bind_eq_ok.mp htext
  rw [signatureText_of_ok hs, hs]

namespace Header

theorem emit_memberItems_of_signed (signed : d.Signed c.naming) {x : Member}
    (hx : x ∈ d.allMembers c.naming) :
    Layout.emit c d (memberItems c.options x) = .ok (memberText c d x) := by
  cases x with
  | method m =>
    rw [memberItems, memberText, Modifiers.isHidden_eq]
    split
    · rfl
    · rw [Layout.emit_singleton, Item.emit_declaration_of_ok (signed m hx)]
  | native n =>
    rw [memberText, ← nativeCode_eq]
    exact Layout.emit_singleton ..
  | _ => rfl

theorem endsInInterface_of_emit {superclass : String} {text : Block}
    (h : (Item.interfaceHead superclass (d.instanceFields .nonPrivate c.options)).emit c d =
      .ok text) : EndsInInterface c d text := by
  obtain ⟨ivars, -, h⟩ := Emission.bind_eq_ok.mp h
  have line : interfaceLine c.naming d superclass = "@interface " ++ c.naming.fullName d.type ++
      (" : " ++ superclass ++ protocols c.naming d.interfaces) := by
    simp only [interfaceLine, String.append_assoc]
  rw [line] at h
  exact ⟨.blank :: DocComment.block c.detect d.doc, _, ivars, (Except.ok.inj h).symm⟩

/-- Nothing but an enumeration comes before the interface. -/
theorem endsInInterface_headItems (hk : d.kind ≠ .annotationDecl) {head : Block}
    (h : Layout.emit c d (headItems c d) = .ok head) : EndsInInterface c d head := by
  unfold headItems at h
  cases kind : d.kind with
  | classDecl =>
    rw [kind] at h
    exact endsInInterface_of_emit ((Layout.emit_singleton ..).symm.trans h)
  | enumDecl =>
    rw [kind] at h
    obtain ⟨enumeration, b, -, hb, rfl⟩ := Layout.emit_cons_eq_ok.mp h
    obtain ⟨before, supertypes, ivars, rfl⟩ :=
      endsInInterface_of_emit ((Layout.emit_singleton ..).symm.trans hb)
    exact ⟨enumeration ++ before, supertypes, ivars, (List.append_assoc ..).symm⟩
  | annotationDecl => exact absurd kind hk

/-- The methods of a type's kind come before those of the body. -/
theorem flatMap_memberText (c : Context) (d : TypeDecl) :
    (d.allMembers c.naming).flatMap (memberText c d) =
      (d.supportMethods c.naming).flatMap (d.declarationText c) ++
        d.body.flatMap (memberText c d) := by
  rw [TypeDecl.allMembers, List.flatMap_append, List.flatMap_map]
  congr 1
  refine List.flatMap_congr fun m hm => ?_
  rw [memberText, TypeDecl.areLeftOut_of_mem_supportMethods hm, if_neg Bool.false_ne_true]

end Header

namespace Implementation

theorem emit_hiddenItems_of_signed (signed : d.Signed c.naming) {x : Member}
    (hx : x ∈ d.allMembers c.naming) :
    Layout.emit c d (hiddenItems c.options x) = .ok (hiddenText c d x) := by
  cases x with
  | method m =>
    rw [hiddenItems, hiddenText, Modifiers.isHidden_eq]
    split
    · rw [Layout.emit_singleton, Item.emit_declaration_of_ok (signed m hx)]
    · rfl
  | _ => rfl

theorem emit_definitionItems_of_signed (signed : d.Signed c.naming) {x : Member}
    (hx : x ∈ d.allMembers c.naming) :
    Layout.emit c d (definitionItems x) = .ok (memberText c d x) := by
  cases x with
  | method m =>
    rw [definitionItems, Layout.emit_singleton, Item.emit_definition_of_ok (signed m hx)]
    rfl
  | native n =>
    rw [memberText, ← Header.nativeCode_eq]
    exact Layout.emit_singleton ..
  | _ => rfl

theorem flatMap_memberText (c : Context) (d : TypeDecl) :
    (d.allMembers c.naming).flatMap (memberText c d) =
      (d.supportMethods c.naming).flatMap (d.definitionText c.naming) ++
        d.body.flatMap (memberText c d) := by
  rw [TypeDecl.allMembers, List.flatMap_append, List.flatMap_map]
  rfl

/-- Without hidden members there are no hidden methods. -/
theorem flatMap_hiddenText_eq_nil (h : d.hasHiddenMembers c.options = false) :
    d.body.flatMap (hiddenText c d) = [] := by
  have visible : d.body.any (Member.isHiddenMethod c.options) = false :=
    (Bool.or_eq_false_iff.mp h).2
  refine List.flatMap_eq_nil_iff.mpr fun x hx => ?_
  have hidden := List.any_eq_false.mp visible x hx
  cases x with
  | method m => exact if_neg hidden
  | _ => rfl

theorem extensionText_of_emit (signed : d.Signed c.naming) {extension : Block}
    (h : Layout.emit c d (extensionItems c d) = .ok extension) : ExtensionText c d extension := by
  unfold extensionItems at h
  cases hidden : d.hasHiddenMembers c.options with
  | false =>
    rw [hidden, if_neg Bool.false_ne_true] at h
    cases h
    exact .absent hidden (flatMap_hiddenText_eq_nil hidden)
  | true =>
    rw [hidden, if_pos rfl] at h
    obtain ⟨opened, rest, hopened, hrest, rfl⟩ := Layout.emit_append_eq_ok.mp h
    obtain ⟨head, declarations, hhead, hdeclarations, rfl⟩ := Layout.emit_cons_eq_ok.mp hopened
    obtain ⟨ending, setters, hending, hsetters, rfl⟩ := Layout.emit_cons_eq_ok.mp hrest
    rw [Layout.emit_flatMap_of_forall fun x hx => emit_hiddenItems_of_signed signed
      (TypeDecl.mem_allMembers_of_mem_body hx)] at hdeclarations
    rw [Layout.emit_setterItems] at hsetters
    cases hdeclarations
    cases hending
    cases hsetters
    rw [Header.ending_eq, ← List.append_assoc]
    obtain ⟨ivars, -, opening⟩ := Emission.bind_eq_ok.mp hhead
    exact .present hidden hhead (Except.ok.inj opening).symm

end Implementation

/-- Where both files of a class or enum are generated, they agree on its
methods. All of them have signatures; the header declares those that are
not hidden and the class extension those that are, each under its
signature, in the order of the members; and the implementation defines
all of them in this order, under the same signatures. -/
theorem methodTexts_of_files (hk : d.kind ≠ .annotationDecl) {header implementation : Block}
    (hheader : Header.ofType c d = .ok header)
    (himplementation : Implementation.ofType c d = .ok implementation) :
    MethodTexts c d header implementation := by
  -- the implementation alone shows that there are signatures, also for what the header declares
  have signed : d.Signed c.naming := d.signed_of_implementation hk himplementation
  refine ⟨signed, rfl, ?_, ?_⟩
  · rw [Header.ofType_eq_emit, Header.layout, Header.declarationItems_of_ne hk,
      Header.tailItems] at hheader
    obtain ⟨before, rest, hbefore, hrest, rfl⟩ := Layout.emit_append_eq_ok.mp hheader
    obtain ⟨head, declarations, hhead, hdeclarations, rfl⟩ := Layout.emit_append_eq_ok.mp hbefore
    obtain ⟨ending, tail, hending, htail, rfl⟩ := Layout.emit_cons_eq_ok.mp hrest
    rw [Layout.emit_flatMap_of_forall fun x hx => Header.emit_memberItems_of_signed signed hx,
      Header.flatMap_memberText] at hdeclarations
    cases hdeclarations
    cases hending
    exact ⟨head, tail, hhead, htail, Header.endsInInterface_headItems hk hhead,
      (List.append_assoc ..).symm⟩
  · rw [Implementation.ofType_eq_emit, Implementation.layout_of_ne hk,
      Implementation.headItems] at himplementation
    obtain ⟨before, tail, hbefore, htail, rfl⟩ := Layout.emit_append_eq_ok.mp himplementation
    obtain ⟨head, definitions, hhead, hdefinitions, rfl⟩ := Layout.emit_append_eq_ok.mp hbefore
    rw [List.append_assoc (Implementation.extensionItems c d)] at hhead
    obtain ⟨opened, opening, hopened, hopening, rfl⟩ := Layout.emit_append_eq_ok.mp hhead
    obtain ⟨extension, statics, hextension, hstatics, rfl⟩ := Layout.emit_append_eq_ok.mp hopened
    rw [Layout.emit_flatMap_of_forall fun x hx =>
      Implementation.emit_definitionItems_of_signed signed hx,
      Implementation.flatMap_memberText] at hdefinitions
    rw [Layout.emit_singleton] at hopening
    cases hdefinitions
    cases hopening
    exact ⟨extension, statics, tail, Implementation.extensionText_of_emit signed hextension,
      hstatics, htail, rfl⟩

/-- An enum with a constant and a private method. -/
def depot : TypeDecl :=
  { kind := .enumDecl
    type := .ofClass "Depot"
    body :=
      [.enumConstant "MAIN",
       .method { name := "load", owner := .ofClass "Depot", modifiers := ⟨[.privateAccess]⟩ }] }

/-- With private members hidden, the enum has a header and an
implementation that agree on its three methods. -/
theorem methodTexts_depot :
    depot.kind ≠ .annotationDecl ∧ ∃ header implementation,
      Header.ofType (SourceUnit.context { hidePrivate := true }) depot = .ok header ∧
      Implementation.ofType (SourceUnit.context { hidePrivate := true }) depot =
        .ok implementation ∧
      MethodTexts (SourceUnit.context { hidePrivate := true }) depot header implementation := by
  have hk : depot.kind ≠ .annotationDecl := by decide
  obtain ⟨header, hheader⟩ : ∃ header,
      Header.ofType (SourceUnit.context { hidePrivate := true }) depot = .ok header := ⟨_, rfl⟩
  obtain ⟨implementation, himplementation⟩ : ∃ implementation,
      Implementation.ofType (SourceUnit.context { hidePrivate := true }) depot =
        .ok implementation := ⟨_, rfl⟩
  exact ⟨hk, header, implementation, hheader, himplementation,
    methodTexts_of_files hk hheader himplementation⟩

end ObjcDecl
