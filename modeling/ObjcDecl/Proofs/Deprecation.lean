import ObjcDecl.Proofs.Annotations
import ObjcDecl.Proofs.Methods

/-!
# What the switch for deprecation changes

Deprecated methods are marked if a switch says so. Nothing else in a file
may depend on the switch: a mark on a definition would be an error of the
compiler, and a declaration that loses its mark in the class extension is
a warning that nobody sees.

The text of a file is given here in stretches, some of which are insertions
(`Stretch`): the pair of pragmas around the types, and a mark before the
semicolon that ends the declaration of a marked method. With the switch on
the file is all stretches in a row, with the switch off it is what remains
without the insertions, and in both cases it says nothing else of the
annotations (`files_marked`).
-/

namespace ObjcDecl

open SourceUnit (textOf)

/-! ## Stretches -/

/-- A stretch of a file. An insertion is there only where deprecated
declarations are marked. -/
inductive Stretch where
  | fixed (text : String)
  | insertion (text : String)

namespace Stretch

/-- The text of stretches in a row, with the insertions or without. -/
def text (marked : Bool) (l : List Stretch) : String :=
  String.join (l.map fun
    | .fixed t => t
    | .insertion t => if marked then t else "")

/-- The inserted texts, in order. -/
def insertions (l : List Stretch) : List String :=
  l.filterMap fun
    | .fixed _ => none
    | .insertion t => some t

/-- The stretches of the elements of a list in a row, or the first cause for
which some of them cannot be printed. -/
def row {α : Type} (f : α → Except Fault (List Stretch)) :
    List α → Except Fault (List Stretch)
  | [] => .ok []
  | x :: l => do
    let a ← f x
    let b ← row f l
    pure (a ++ b)

theorem text_append (marked : Bool) (a b : List Stretch) :
    text marked (a ++ b) = text marked a ++ text marked b := by
  simp [text, String.join_append]

theorem insertions_append (a b : List Stretch) :
    insertions (a ++ b) = insertions a ++ insertions b :=
  List.filterMap_append

end Stretch

/-- The mark of a deprecated declaration. -/
def deprecationMark : String := " __attribute__((deprecated))"

/-- The declaration of a method under a signature. The mark is inserted
before the semicolon of a declaration that has one. -/
def Method.stretches (c : Context) (m : Method) (signature : String) : List Stretch :=
  .fixed (textOf (.blank :: commentLines c.detect m.doc) ++ signature ++
    (if m.InfersOwnership c.naming then " OBJC_METHOD_FAMILY_NONE" else "")) ::
    (if m.IsMarked then [.insertion deprecationMark] else []) ++ [.fixed ";\n"]

/-- An item in stretches: nothing but a declaration has an insertion. -/
def Item.stretches (c : Context) (d : TypeDecl) : Item → Except Fault (List Stretch)
  | .declaration m => do
    let signature ← d.signature c.naming m
    pure (m.stretches c signature)
  | i => do
    let b ← i.emit c d
    pure [.fixed (textOf b)]

/-- The lines that switch warnings off. -/
def warningsOff : String :=
  "#pragma clang diagnostic push\n" ++
    "#pragma GCC diagnostic ignored \"-Wdeprecated-declarations\"\n"

/-- The line that switches them on again. -/
def warningsOn : String := "#pragma clang diagnostic pop\n"

/-- A file in stretches: the pragmas are inserted before the first type and
after the last one. -/
def fileStretches (c : Context) (layout : TypeDecl → Layout) (opening ending : Block)
    (types : List TypeDecl) : Except Fault (List Stretch) := do
  let l ← Stretch.row (fun d => Stretch.row (Item.stretches c d) (layout d)) types
  pure ([.fixed (textOf opening), .insertion warningsOff] ++ l ++
    [.insertion warningsOn, .fixed (textOf ending)])

namespace SourceUnit

/-- The options without marks. -/
def unmarked (hide : Bool) : Options := { emitDeprecated := false, hidePrivate := hide }

/-- The header in stretches. -/
def headerStretches (u : SourceUnit) (hide : Bool) : Except Fault (List Stretch) :=
  fileStretches (context (unmarked hide)) (Header.layout (context (unmarked hide)))
    (u.headerOpening (unmarked hide)) (u.headerEnding (unmarked hide)) u.types

/-- The implementation in stretches. -/
def implementationStretches (u : SourceUnit) (hide : Bool) : Except Fault (List Stretch) :=
  fileStretches (context (unmarked hide)) (Implementation.layout (context (unmarked hide)))
    (u.implementationOpening (unmarked hide)) (implementationEnding (unmarked hide)) u.types

end SourceUnit

/-! ## The stretches are the file -/

/-- The context with the switch set. -/
def Context.marking (c : Context) (marked : Bool) : Context :=
  { c with options := { c.options with emitDeprecated := marked } }

theorem SourceUnit.textOf_flush (t : String) : textOf [.flush t] = t ++ "\n" := by
  simp [textOf, Block.render, Line.render]

theorem Method.text_stretches (c : Context) (m : Method) (signature : String) (marked : Bool) :
    Stretch.text marked (m.stretches c signature) =
      textOf (m.declared (c.marking marked) signature) := by
  have wanted : (c.marking marked).options.emitDeprecated = marked := rfl
  have names : (c.marking marked).naming = c.naming := rfl
  have detect : (c.marking marked).detect = c.detect := rfl
  rw [Method.declared, SourceUnit.textOf_append, SourceUnit.textOf_flush, wanted, names, detect]
  by_cases hm : m.IsMarked
  · cases marked <;> simp [stretches, Stretch.text, hm, deprecationMark, String.append_assoc]
  · cases marked <;> simp [stretches, Stretch.text, hm, String.append_assoc]

/-- Whether the switch is on makes a difference for declarations alone. -/
theorem Item.text_stretches (c : Context) (d : TypeDecl) (i : Item) (marked : Bool) :
    (i.stretches c d).map (Stretch.text marked) = (i.emit (c.marking marked) d).map textOf := by
  have other (e : Emission) : (do
      let b ← e
      pure [Stretch.fixed (textOf b)]).map (Stretch.text marked) = e.map textOf := by
    cases e with
    | error f => rfl
    | ok b => simp [Except.map, Stretch.text]
  cases i with
  | declaration m =>
    rw [stretches, emit_declaration]
    have signature : d.signature (c.marking marked).naming m = d.signature c.naming m := rfl
    rw [signature]
    cases d.signature c.naming m with
    | error f => rfl
    | ok s => exact congrArg Except.ok (m.text_stretches c s marked)
  | _ => exact other _

/-- The text of two lists in a row, if there are such, is put together from
the texts of the two. -/
theorem map_bind_append {β : Type} {text : List β → String}
    (append : ∀ a b, text (a ++ b) = text a ++ text b) (x y : Except Fault (List β)) :
    (do
      let a ← x
      let b ← y
      pure (a ++ b)).map text = (do
        let s ← x.map text
        let t ← y.map text
        pure (s ++ t)) := by
  cases x with
  | error f => rfl
  | ok a =>
    cases y with
    | error f => rfl
    | ok b => exact congrArg Except.ok (append a b)

/-- What is printed element by element has the texts of the stretches. -/
theorem Stretch.text_row {α : Type} {e : α → Emission} {f : α → Except Fault (List Stretch)}
    {marked : Bool} (h : ∀ x, (f x).map (Stretch.text marked) = (e x).map textOf) (l : List α) :
    (Stretch.row f l).map (Stretch.text marked) = (Block.sequence (l.map e)).map textOf := by
  induction l with
  | nil => rfl
  | cons x l ih =>
    rw [List.map_cons, Block.sequence_cons, Stretch.row, map_bind_append (text_append marked),
      map_bind_append SourceUnit.textOf_append, h x, ih]

theorem SourceUnit.textOf_regionOpening (o : Options) :
    textOf (regionOpening o) = if o.emitDeprecated then warningsOff else "" := by
  unfold regionOpening
  split <;> rfl

theorem SourceUnit.textOf_regionEnding (o : Options) :
    textOf (regionEnding o) = if o.emitDeprecated then warningsOn else "" := by
  unfold regionEnding
  split <;> rfl

/-- Where two computations agree in one respect, they agree in every respect
that it determines. -/
theorem map_eq_of_map_eq {α β γ δ : Type} {x : Except Fault α} {y : Except Fault β}
    {p : α → γ} {q : β → γ} {p' : α → δ} {q' : β → δ} (h : x.map p = y.map q)
    (determined : ∀ a b, p a = q b → p' a = q' b) : x.map p' = y.map q' := by
  cases x with
  | error f =>
    cases y with
    | error g =>
      cases h
      rfl
    | ok b => cases h
  | ok a =>
    cases y with
    | error g => cases h
    | ok b => exact congrArg Except.ok (determined a b (Except.ok.inj h))

/-- A file is its stretches, if each of its types is. -/
theorem text_fileStretches {c : Context} {layout : TypeDecl → Layout} {opening ending : Block}
    {marked : Bool} {e : TypeDecl → Emission}
    (h : ∀ d, e d = Layout.emit (c.marking marked) d (layout d)) (types : List TypeDecl) :
    (fileStretches c layout opening ending types).map (Stretch.text marked) =
      (Block.sequence (types.map e)).map fun b =>
        textOf (opening ++ SourceUnit.regionOpening (c.marking marked).options ++ b ++
          (SourceUnit.regionEnding (c.marking marked).options ++ ending)) := by
  have rows : (Stretch.row (fun d => Stretch.row (Item.stretches c d) (layout d)) types).map
      (Stretch.text marked) = (Block.sequence (types.map e)).map textOf := by
    refine Stretch.text_row (fun d => ?_) types
    rw [h, Layout.emit, Stretch.text_row fun i => i.text_stretches c d marked]
  have whole : (fileStretches c layout opening ending types).map (Stretch.text marked) =
      (Stretch.row (fun d => Stretch.row (Item.stretches c d) (layout d)) types).map fun l =>
        Stretch.text marked ([.fixed (textOf opening), .insertion warningsOff] ++ l ++
          [.insertion warningsOn, .fixed (textOf ending)]) := by
    unfold fileStretches
    cases Stretch.row (fun d => Stretch.row (Item.stretches c d) (layout d)) types <;> rfl
  rw [whole]
  refine map_eq_of_map_eq rows fun l b hl => ?_
  simp only [Stretch.text_append, hl, SourceUnit.textOf_append, SourceUnit.textOf_regionOpening,
    SourceUnit.textOf_regionEnding]
  cases marked <;> simp [Stretch.text, Context.marking, String.append_assoc]

namespace SourceUnit

variable (u : SourceUnit) (hide switch : Bool)

theorem text_headerStretches :
    (u.headerStretches hide).map (Stretch.text switch) =
      u.header { emitDeprecated := switch, hidePrivate := hide } := by
  have types (d : TypeDecl) :
      Header.ofType (context { emitDeprecated := switch, hidePrivate := hide }) d =
        Layout.emit ((context (unmarked hide)).marking switch) d
          (Header.layout (context (unmarked hide)) d) := Header.ofType_eq_emit _ d
  have noRegion : regionOpening (unmarked hide) = [] ∧ regionEnding (unmarked hide) = [] :=
    ⟨rfl, rfl⟩
  rw [header_eq, headerStretches, text_fileStretches types]
  simp only [headerOpening, headerEnding, noRegion, List.append_nil, List.nil_append]
  rfl

theorem text_implementationStretches :
    (u.implementationStretches hide).map (Stretch.text switch) =
      u.implementation { emitDeprecated := switch, hidePrivate := hide } := by
  have types (d : TypeDecl) :
      Implementation.ofType (context { emitDeprecated := switch, hidePrivate := hide }) d =
        Layout.emit ((context (unmarked hide)).marking switch) d
          (Implementation.layout (context (unmarked hide)) d) :=
    Implementation.ofType_eq_emit _ d
  have noRegion : regionOpening (unmarked hide) = [] ∧ regionEnding (unmarked hide) = [] :=
    ⟨rfl, rfl⟩
  rw [implementation_eq, implementationStretches, text_fileStretches types]
  simp only [implementationOpening, implementationEnding, noRegion, List.append_nil]
  rfl

end SourceUnit

/-! ## Which declarations have a mark -/

/-- The methods and constructors that are declared for a type: those of its
kind and those of its body. An annotation type declares none. -/
def TypeDecl.declaredMethods (names : Naming) (d : TypeDecl) : List Method :=
  if d.kind = .annotationDecl then []
  else (d.allMembers names).filterMap fun
    | .method m => some m
    | _ => none

section Parts

open Layout (part part_nil part_cons part_append part_headed)

variable {c : Context} {d : TypeDecl}

/-- The header declares the methods that are not hidden. -/
theorem Header.part_declaration :
    part .declaration (layout c d) =
      ((d.declaredMethods c.naming).filter fun m => !m.modifiers.isHidden c.options).map
        .declaration := by
  have head : part .declaration (headItems c d) = [] := by
    unfold headItems
    split <;> rfl
  have tail : part .declaration (tailItems c d) = [] := by
    rw [tailItems, List.cons_append, part_cons, part_append, part_valuesItems (by decide),
      part_trailerItems (by decide), part_staticItems (by decide) (by decide)]
    rfl
  rw [layout, part_append, part_append, head, tail, List.nil_append, List.append_nil,
    TypeDecl.declaredMethods]
  by_cases hk : d.kind = .annotationDecl
  · rw [if_pos hk, declarationItems, hk]
    rfl
  · rw [if_neg hk, declarationItems_of_ne hk]
    induction d.allMembers c.naming with
    | nil => rfl
    | cons x l ih =>
      rw [List.flatMap_cons, part_append, ih]
      cases x with
      | method m =>
        cases hidden : m.modifiers.isHidden c.options <;>
          simp [memberItems, hidden, part, Item.role]
      | _ => simp [memberItems, part, Item.role]

/-- Without hidden members there are no hidden methods to declare. -/
theorem Implementation.flatMap_hiddenItems_eq_nil {o : Options}
    (h : ¬ d.hasHiddenMembers o = true) : d.body.flatMap (hiddenItems o) = [] := by
  refine List.flatMap_eq_nil_iff.mpr fun x hx => ?_
  cases x with
  | method m =>
    have visible : ¬ m.modifiers.isHidden o = true := fun hidden =>
      h (Bool.or_eq_true_iff.mpr (.inr (List.any_eq_true.mpr ⟨_, hx, hidden⟩)))
    exact if_neg visible
  | _ => rfl

theorem Implementation.part_declaration_extensionItems :
    part .declaration (extensionItems c d) =
      part .declaration (d.body.flatMap (hiddenItems c.options)) := by
  unfold extensionItems
  by_cases h : d.hasHiddenMembers c.options = true
  · rw [if_pos h, part_append, part_cons, part_cons, part_headed _ (by decide),
      Layout.part_setterItems]
    simp [Item.role]
  · rw [if_neg h, flatMap_hiddenItems_eq_nil h]

/-- The methods of a type's kind are not hidden. -/
theorem Implementation.flatMap_hiddenItems_allMembers (names : Naming) (o : Options) :
    (d.allMembers names).flatMap (hiddenItems o) = d.body.flatMap (hiddenItems o) := by
  have support : ((d.supportMethods names).map Member.method).flatMap (hiddenItems o) = [] := by
    rw [List.flatMap_map]
    refine List.flatMap_eq_nil_iff.mpr fun m hm => ?_
    rw [hiddenItems, Modifiers.isHidden_eq, TypeDecl.areLeftOut_of_mem_supportMethods hm,
      if_neg Bool.false_ne_true]
  rw [TypeDecl.allMembers, List.flatMap_append, support, List.nil_append]

/-- The implementation declares the methods that are hidden. -/
theorem Implementation.part_declaration :
    part .declaration (layout c d) =
      ((d.declaredMethods c.naming).filter fun m => m.modifiers.isHidden c.options).map
        .declaration := by
  rw [TypeDecl.declaredMethods]
  by_cases hk : d.kind = .annotationDecl
  · rw [if_pos hk, part_layout_annotation hk (by decide)]
    rfl
  · have prototypes : part .declaration (d.body.flatMap prototypeItems) = [] := by
      rw [flatMap_prototypeItems]
      exact Layout.part_map (s := .privatePrototype) (fun _ => rfl) _
    have members : part .declaration (layout c d) =
        part .declaration ((d.allMembers c.naming).flatMap (hiddenItems c.options)) := by
      rw [layout_of_ne hk, headItems, flatMap_hiddenItems_allMembers]
      simp only [part_append, part_cons, part_nil, part_declaration_extensionItems, prototypes,
        part_storageItems (r := .declaration) (by decide),
        part_definitionItems (r := .declaration) (by decide) (by decide),
        part_tailItems (r := .declaration) (by decide), Item.role, reduceCtorEq, if_false,
        List.append_nil]
    rw [if_neg hk, members]
    induction d.allMembers c.naming with
    | nil => rfl
    | cons x l ih =>
      rw [List.flatMap_cons, part_append, ih]
      cases x with
      | method m =>
        cases hidden : m.modifiers.isHidden c.options <;>
          simp [hiddenItems, hidden, part, Item.role]
      | _ => simp [hiddenItems, part]

end Parts

/-! ## Insertions -/

/-- A mark for each of some declared methods that has the marker. -/
def deprecationMarks (declared : List Method) : List String :=
  (declared.filter fun m => m.IsMarked).map fun _ => deprecationMark

/-- The marks of an item. -/
def Item.marks : Item → List String
  | .declaration m => deprecationMarks [m]
  | _ => []

theorem Item.insertions_stretches {c : Context} {d : TypeDecl} {i : Item} {l : List Stretch}
    (h : i.stretches c d = .ok l) : Stretch.insertions l = i.marks := by
  have other {e : Emission} (h : (do
      let b ← e
      pure [Stretch.fixed (textOf b)]) = .ok l) : Stretch.insertions l = [] := by
    obtain ⟨b, -, h⟩ := Emission.bind_eq_ok.mp h
    cases h
    rfl
  cases i with
  | declaration m =>
    obtain ⟨s, -, h⟩ := Emission.bind_eq_ok.mp h
    cases h
    by_cases marked : m.IsMarked
    · simp [marks, deprecationMarks, Method.stretches, Stretch.insertions, marked]
    · simp [marks, deprecationMarks, Method.stretches, Stretch.insertions, marked]
  | _ => exact other h

/-- The insertions of a row are those of its elements. -/
theorem Stretch.insertions_row {α : Type} {f : α → Except Fault (List Stretch)}
    {g : α → List String} (h : ∀ x l, f x = .ok l → insertions l = g x) {xs : List α}
    {l : List Stretch} (hl : row f xs = .ok l) : insertions l = xs.flatMap g := by
  induction xs generalizing l with
  | nil =>
    cases hl
    rfl
  | cons x xs ih =>
    obtain ⟨a, ha, hl⟩ := Emission.bind_eq_ok.mp hl
    obtain ⟨b, hb, hl⟩ := Emission.bind_eq_ok.mp hl
    cases hl
    rw [insertions_append, h x a ha, ih hb, List.flatMap_cons]

/-- Only declarations have marks. -/
theorem Layout.flatMap_marks {l : Layout} {ms : List Method}
    (h : l.part .declaration = ms.map .declaration) :
    l.flatMap Item.marks = deprecationMarks ms := by
  have declarations : l.flatMap Item.marks = (l.part .declaration).flatMap Item.marks := by
    clear h
    induction l with
    | nil => rfl
    | cons i l ih =>
      rw [List.flatMap_cons, ih, part_cons]
      cases i <;> rfl
  rw [declarations, h, List.flatMap_map]
  clear h
  induction ms with
  | nil => rfl
  | cons m ms ih =>
    rw [List.flatMap_cons, ih]
    by_cases marked : m.IsMarked <;> simp [Item.marks, deprecationMarks, marked]

/-- The insertions of a file: its pragmas, and one mark for every marked
method that it declares. -/
theorem insertions_fileStretches {c : Context} {layout : TypeDecl → Layout}
    {opening ending : Block} {types : List TypeDecl} {declared : TypeDecl → List Method}
    (h : ∀ d, (layout d).part .declaration = (declared d).map .declaration) {l : List Stretch}
    (hl : fileStretches c layout opening ending types = .ok l) :
    Stretch.insertions l =
      [warningsOff] ++ types.flatMap (fun d => deprecationMarks (declared d)) ++ [warningsOn] := by
  obtain ⟨b, hb, hl⟩ := Emission.bind_eq_ok.mp hl
  cases hl
  have marks := Stretch.insertions_row (fun d a ha =>
    (Stretch.insertions_row (fun i a ha => i.insertions_stretches ha) ha).trans
      (Layout.flatMap_marks (h d))) hb
  rw [Stretch.insertions_append, Stretch.insertions_append, marks]
  rfl

/-! ## The files of a unit -/

/-- What a file says of annotations and of the switch for deprecated
declarations. -/
structure Marked (file : SourceUnit → Options → Except Fault String)
    (stretches : Except Fault (List Stretch)) (declared : TypeDecl → List Method)
    (u : SourceUnit) (hide : Bool) : Prop where
  /-- With the switch off, annotations have no effect. -/
  unannotated : file u.unannotated { emitDeprecated := false, hidePrivate := hide } =
    file u { emitDeprecated := false, hidePrivate := hide }
  /-- With the switch on, annotations other than the markers have none. -/
  markersOnly : file u.markersOnly { emitDeprecated := true, hidePrivate := hide } =
    file u { emitDeprecated := true, hidePrivate := hide }
  /-- The switch makes insertions and changes nothing else. -/
  switchedOff : file u { emitDeprecated := false, hidePrivate := hide } =
    stretches.map (Stretch.text false)
  switchedOn : file u { emitDeprecated := true, hidePrivate := hide } =
    stretches.map (Stretch.text true)
  /-- The insertions are the pragmas around the types and between them the
  marks of the declared methods that have the marker. -/
  insertions : ∀ l, stretches = .ok l → Stretch.insertions l =
    [warningsOff] ++ u.types.flatMap (fun d => deprecationMarks (declared d)) ++ [warningsOn]

/-- Annotations and the switch for deprecated declarations act on the files
of a unit where they should and nowhere else. The header has the marks of
the methods that it declares, the implementation those of the methods in
class extensions, and definitions have none. -/
theorem files_marked (u : SourceUnit) (hide : Bool) :
    Marked SourceUnit.header (u.headerStretches hide)
        (fun d => (d.declaredMethods Naming.prefixed).filter fun m =>
          !(hide && m.modifiers.isPrivateOrSynthetic)) u hide ∧
      Marked SourceUnit.implementation (u.implementationStretches hide)
        (fun d => (d.declaredMethods Naming.prefixed).filter fun m =>
          hide && m.modifiers.isPrivateOrSynthetic) u hide := by
  refine ⟨?_, ?_⟩
  · exact
      { unannotated := u.header_mapAnnotations (SourceUnit.unseen_unannotated hide)
        markersOnly := u.header_mapAnnotations (SourceUnit.unseen_markersOnly _)
        switchedOff := (u.text_headerStretches hide false).symm
        switchedOn := (u.text_headerStretches hide true).symm
        insertions := fun l hl =>
          insertions_fileStretches (fun d => Header.part_declaration) hl }
  · exact
      { unannotated := u.implementation_mapAnnotations (SourceUnit.unseen_unannotated hide)
        markersOnly := u.implementation_mapAnnotations (SourceUnit.unseen_markersOnly _)
        switchedOff := (u.text_implementationStretches hide false).symm
        switchedOn := (u.text_implementationStretches hide true).symm
        insertions := fun l hl =>
          insertions_fileStretches (fun d => Implementation.part_declaration) hl }

/-- A class with a deprecated constructor that is private. -/
def retiredNote : SourceUnit where
  sourcePath := "Note.java"
  types := [{
    kind := .classDecl
    type := .ofClass "Note"
    body := [.method
      { name := "<init>"
        owner := .ofClass "Note"
        isConstructor := true
        modifiers := ⟨[.privateAccess]⟩
        annotations := [⟨"Deprecated"⟩] }] }]

/-- The mark goes into the class extension where private members are hidden. -/
example :
    (retiredNote.headerStretches true).map Stretch.insertions = .ok [warningsOff, warningsOn] ∧
      (retiredNote.implementationStretches true).map Stretch.insertions =
        .ok [warningsOff, deprecationMark, warningsOn] := ⟨rfl, rfl⟩

end ObjcDecl
