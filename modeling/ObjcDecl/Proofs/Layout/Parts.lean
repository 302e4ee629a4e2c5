import ObjcDecl.Proofs.Layout.Header
import ObjcDecl.Proofs.Layout.Implementation

/-!
# The parts of the layouts

`Layout.part` picks the items of one role out of a layout and keeps their
order. For each role that two files can disagree about, the laws here say
what the header and the implementation have of it, as a list over the
members of the type: one law for each role and file, for every mix of
members. The steps that a file takes in printing such a list (several
visits of one body, skips within a visit, blank lines before the first
item) leave no trace in these laws.
-/

namespace ObjcDecl

/-- What the items of a layout are for. -/
inductive Role where
  /-- Fixed text, and text on the type as a whole. -/
  | frame
  | variables
  | declaration
  | definition
  | native
  | setter
  | storageExport
  | accessor
  | storage
  | exportedPrototype
  | privatePrototype
  | functionDefinition
  | initialization
  | initializer
deriving DecidableEq

/-- The role of an item. -/
def Item.role : Item → Role
  | .interfaceHead .. | .extensionHead _ => .variables
  | .declaration _ => .declaration
  | .definition _ => .definition
  | .native _ => .native
  | .setter .. => .setter
  | .storageExport .. => .storageExport
  | .accessor .. => .accessor
  | .storage .. => .storage
  | .exportedPrototype _ => .exportedPrototype
  | .privatePrototype _ => .privatePrototype
  | .functionDefinition _ => .functionDefinition
  | .initialization _ => .initialization
  | .initializer => .initializer
  | .blank | .implementationHead | .ending | .literal _ | .enumeration | .valuesExport
  | .constantAccessor _ | .valuesStorage | .annotationInterface | .annotationDefinitions => .frame

namespace Layout

/-- The items of a role, in order. -/
def part (r : Role) (l : Layout) : Layout := l.filter fun i => i.role = r

variable {r : Role}

theorem part_nil : part r [] = [] := rfl

theorem part_cons (i : Item) (l : Layout) :
    part r (i :: l) = if i.role = r then i :: part r l else part r l := by
  simp only [part, List.filter_cons, decide_eq_true_eq]

theorem part_append (a b : Layout) : part r (a ++ b) = part r a ++ part r b := by
  simp only [part, List.filter_append]

theorem part_flatMap {α : Type} (l : List α) (g : α → Layout) :
    part r (l.flatMap g) = l.flatMap fun x => part r (g x) := by
  simp only [part, List.filter_flatMap]

/-- Items of one role are all of the part of that role, and nothing of any
other part. -/
theorem part_map {α : Type} {i : α → Item} {s : Role} (h : ∀ x, (i x).role = s) (l : List α) :
    part r (l.map i) = if s = r then l.map i else [] := by
  by_cases hs : s = r
  · rw [if_pos hs, part, List.filter_eq_self]
    intro j hj
    obtain ⟨x, -, rfl⟩ := List.mem_map.mp hj
    exact decide_eq_true ((h x).trans hs)
  · rw [if_neg hs, part, List.filter_eq_nil_iff]
    intro j hj
    obtain ⟨x, -, rfl⟩ := List.mem_map.mp hj
    simpa only [decide_eq_true_eq, h x] using hs

/-- Members of which nothing has the role have no part of it. -/
theorem part_flatMap_eq_nil {α : Type} {g : α → Layout} (h : ∀ x, ∀ i ∈ g x, i.role ≠ r)
    (l : List α) : part r (l.flatMap g) = [] := by
  rw [part, List.filter_eq_nil_iff]
  intro i hi
  obtain ⟨x, -, hi⟩ := List.mem_flatMap.mp hi
  simpa only [decide_eq_true_eq] using h x i hi

/-- A heading is fixed text. -/
theorem part_headed (l : Layout) (hr : Role.frame ≠ r) : part r (headed .blank l) = part r l := by
  cases l with
  | nil => rfl
  | cons i l => exact (part_cons ..).trans (if_neg hr)

theorem part_setterItems (v : FieldVisibility) (o : Options) (d : TypeDecl) :
    part r (d.setterItems v o) = if Role.setter = r then d.setterItems v o else [] := by
  rw [TypeDecl.setterItems, part_flatMap]
  simp only [part_map (i := .setter _) (s := .setter) fun _ => rfl]
  split
  · rfl
  · exact List.flatMap_eq_nil_iff.mpr fun _ _ => rfl

end Layout

open Layout (part part_nil part_cons part_append part_headed part_map part_setterItems)

variable {c : Context} {d : TypeDecl} {r : Role}

namespace Header

/-- Within the interface the header has declarations and native code. -/
theorem part_declarationItems (hd : Role.declaration ≠ r) (hn : Role.native ≠ r) :
    part r (declarationItems c d) = [] := by
  have members : part r ((d.allMembers c.naming).flatMap (memberItems c.options)) = [] := by
    refine Layout.part_flatMap_eq_nil (fun x i hi => ?_) _
    cases x with
    | method m =>
      simp only [memberItems] at hi
      split at hi
      · cases hi
      · rwa [List.mem_singleton.mp hi]
    | native n => rwa [List.mem_singleton.mp hi]
    | _ => cases hi
  unfold declarationItems
  split
  · rfl
  · exact members

/-- The exported functions are those that are not private. -/
theorem flatMap_functionItems (d : TypeDecl) :
    d.body.flatMap functionItems =
      (d.functions.filter fun f => !f.isPrivate).map .exportedPrototype := by
  unfold TypeDecl.functions
  induction d.body with
  | nil => rfl
  | cons x l ih =>
    rw [List.flatMap_cons, ih]
    cases x with
    | function f => cases h : f.isPrivate <;> simp [functionItems, h]
    | _ => rfl

/-- The exported storage is that of all stored variables: the header skips
the primitive constants among the static variables one by one. -/
theorem part_storageExport_staticItems (d : TypeDecl) :
    part .storageExport (d.staticVariables.flatMap staticItems) =
      d.storedVariables.map fun p => .storageExport p.1 p.2 := by
  unfold TypeDecl.staticVariables TypeDecl.storedVariables
  induction d.vars with
  | nil => rfl
  | cons p l ih =>
    obtain ⟨f, v⟩ := p
    cases static : v.binding.isStatic with
    | false =>
      simpa only [List.filter_cons, static, Bool.false_and, Bool.false_eq_true, if_false] using ih
    | true =>
      cases constant : v.binding.isPrimitiveConstant with
      | true =>
        -- the header visits the variable for its accessors, and exports nothing
        simpa [static, constant, staticItems, part_cons, Item.role] using ih
      | false =>
        simpa [static, constant, staticItems, part_cons, Item.role] using ih

theorem part_staticItems (he : Role.storageExport ≠ r) (ha : Role.accessor ≠ r) (d : TypeDecl) :
    part r (d.staticVariables.flatMap staticItems) = [] := by
  refine Layout.part_flatMap_eq_nil (fun p i hi => ?_) _
  obtain ⟨f, v⟩ := p
  rcases List.mem_append.mp hi with hi | hi
  · split at hi
    · cases hi
    · rwa [List.mem_singleton.mp hi]
  · rwa [List.mem_singleton.mp hi]

theorem part_valuesItems (hf : Role.frame ≠ r) (d : TypeDecl) : part r (valuesItems d) = [] := by
  unfold valuesItems
  split
  · simp only [part_cons, part_headed _ hf, Item.role, if_neg hf,
      part_map (i := .constantAccessor) (s := .frame) fun _ => rfl]
  · rfl

/-- What follows the interface, role by role. -/
theorem part_trailerItems (hf : Role.frame ≠ r) (o : Options) (d : TypeDecl) :
    part r (trailerItems o d) =
      (if Role.initialization = r then [.initialization d.initializes] else []) ++
      (if Role.setter = r then d.setterItems .nonPrivate o else []) ++
      part r (d.staticVariables.flatMap staticItems) ++
      (if Role.exportedPrototype = r then
        (d.functions.filter fun f => !f.isPrivate).map .exportedPrototype else []) := by
  rw [trailerItems, flatMap_functionItems]
  simp only [List.cons_append, part_cons, part_append, part_headed _ hf, part_setterItems,
    part_nil, Item.role, hf, if_false, List.append_nil,
    part_map (i := .exportedPrototype) (s := .exportedPrototype) fun _ => rfl]
  split <;> simp only [List.nil_append, List.cons_append, List.append_assoc]

/-- Beyond heads and declarations, a part of the header is a part of what
follows the interface, for every kind of type. -/
theorem part_layout (hf : Role.frame ≠ r) (hv : Role.variables ≠ r) (hd : Role.declaration ≠ r)
    (hn : Role.native ≠ r) : part r (layout c d) = part r (trailerItems c.options d) := by
  have head : part r (headItems c d) = [] := by
    unfold headItems
    split <;> simp only [part_cons, part_nil, Item.role, hf, hv, if_false]
  simp only [layout, tailItems, List.cons_append, part_append, part_cons, head,
    part_declarationItems hd hn, part_valuesItems hf, Item.role, if_neg hf, List.nil_append]

/-- The instance variables of the header are those of its interface. -/
theorem part_variables (hk : d.kind ≠ .annotationDecl) :
    ∃ superclass, part .variables (layout c d) =
      [.interfaceHead superclass (d.instanceFields .nonPrivate c.options)] := by
  have declarations : part .variables (declarationItems c d) = [] :=
    part_declarationItems (by decide) (by decide)
  have tail : part .variables (tailItems c d) = [] := by
    rw [tailItems, List.cons_append, part_cons, part_append, part_valuesItems (by decide),
      part_trailerItems (by decide), part_staticItems (by decide) (by decide)]
    rfl
  cases h : d.kind with
  | annotationDecl => exact absurd h hk
  | classDecl =>
    refine ⟨superclassName c.naming d, ?_⟩
    rw [layout, part_append, part_append, declarations, tail, headItems, h]
    rfl
  | enumDecl =>
    refine ⟨enumSuperclass, ?_⟩
    rw [layout, part_append, part_append, declarations, tail, headItems, h]
    rfl

theorem part_setter : part .setter (layout c d) = d.setterItems .nonPrivate c.options := by
  rw [part_layout (by decide) (by decide) (by decide) (by decide), part_trailerItems (by decide),
    part_staticItems (by decide) (by decide)]
  simp

theorem part_storageExport :
    part .storageExport (layout c d) = d.storedVariables.map fun p => .storageExport p.1 p.2 := by
  rw [part_layout (by decide) (by decide) (by decide) (by decide), part_trailerItems (by decide),
    part_storageExport_staticItems]
  simp

theorem part_exportedPrototype :
    part .exportedPrototype (layout c d) =
      (d.functions.filter fun f => !f.isPrivate).map .exportedPrototype := by
  rw [part_layout (by decide) (by decide) (by decide) (by decide), part_trailerItems (by decide),
    part_staticItems (by decide) (by decide)]
  simp

theorem part_initialization :
    part .initialization (layout c d) = [.initialization d.initializes] := by
  rw [part_layout (by decide) (by decide) (by decide) (by decide), part_trailerItems (by decide),
    part_staticItems (by decide) (by decide)]
  simp

/-- The header defines nothing, and leaves private functions out. -/
theorem part_eq_nil (hr : r ∈ [Role.definition, .storage, .privatePrototype, .functionDefinition,
    .initializer]) : part r (layout c d) = [] := by
  have ne : ∀ s, s ∉ [Role.definition, .storage, .privatePrototype, .functionDefinition,
      .initializer] → s ≠ r := fun s hs h => hs (h ▸ hr)
  rw [part_layout (ne _ (by decide)) (ne _ (by decide)) (ne _ (by decide)) (ne _ (by decide)),
    part_trailerItems (ne _ (by decide)), part_staticItems (ne _ (by decide)) (ne _ (by decide)),
    if_neg (ne _ (by decide)), if_neg (ne _ (by decide)), if_neg (ne _ (by decide))]
  rfl

end Header

namespace Implementation

/-- The private functions have prototypes. -/
theorem flatMap_prototypeItems (d : TypeDecl) :
    d.body.flatMap prototypeItems =
      (d.functions.filter fun f => f.isPrivate).map .privatePrototype := by
  unfold TypeDecl.functions
  induction d.body with
  | nil => rfl
  | cons x l ih =>
    rw [List.flatMap_cons, ih]
    cases x with
    | function f => cases h : f.isPrivate <;> simp [prototypeItems, h]
    | _ => rfl

/-- All functions have definitions. -/
theorem flatMap_functionItems (d : TypeDecl) :
    d.body.flatMap functionItems = d.functions.map .functionDefinition := by
  unfold TypeDecl.functions
  induction d.body with
  | nil => rfl
  | cons x l ih =>
    rw [List.flatMap_cons, ih]
    cases x <;> rfl

theorem part_hiddenItems (hd : Role.declaration ≠ r) (o : Options) (ms : List Member) :
    part r (ms.flatMap (hiddenItems o)) = [] := by
  refine Layout.part_flatMap_eq_nil (fun x i hi => ?_) _
  cases x with
  | method m =>
    simp only [hiddenItems] at hi
    split at hi
    · rwa [List.mem_singleton.mp hi]
    · cases hi
  | _ => cases hi

theorem part_definitionItems (hd : Role.definition ≠ r) (hn : Role.native ≠ r)
    (ms : List Member) : part r (ms.flatMap definitionItems) = [] := by
  refine Layout.part_flatMap_eq_nil (fun x i hi => ?_) _
  cases x with
  | method m => rwa [List.mem_singleton.mp hi]
  | native n => rwa [List.mem_singleton.mp hi]
  | _ => cases hi

/-- Without hidden members there are no instance variables to declare in
a class extension. -/
theorem instanceFields_privateOnly_eq_nil {o : Options} (h : ¬ d.hasHiddenMembers o = true) :
    d.instanceFields .privateOnly o = [] := by
  simp only [TypeDecl.hasHiddenMembers, Bool.or_eq_true, not_or, Bool.not_eq_true,
    TypeDecl.hasInstanceVariables_eq, Bool.not_eq_false', List.isEmpty_iff] at h
  exact h.1

/-- What stands in the class extension beside declarations. -/
theorem part_extensionItems (hf : Role.frame ≠ r) (hd : Role.declaration ≠ r) :
    part r (extensionItems c d) =
      (if Role.variables = r then
        (if d.hasHiddenMembers c.options then
          [.extensionHead (d.instanceFields .privateOnly c.options)] else []) else []) ++
      (if Role.setter = r then d.setterItems .privateOnly c.options else []) := by
  unfold extensionItems
  by_cases h : d.hasHiddenMembers c.options = true
  · rw [if_pos h]
    simp only [List.cons_append, part_cons, part_append, part_headed _ hf, part_hiddenItems hd,
      part_setterItems, Item.role, hf, if_false, h, if_true, List.nil_append]
    split <;> rfl
  · have empty : d.setterItems .privateOnly c.options = [] := by
      rw [TypeDecl.setterItems, instanceFields_privateOnly_eq_nil h]
      rfl
    rw [if_neg h, if_neg h, empty, ite_self, ite_self]
    rfl

theorem part_storageItems (hf : Role.frame ≠ r) (d : TypeDecl) :
    part r (storageItems d) =
      if Role.storage = r then d.storedVariables.map fun p => .storage p.1 p.2 else [] := by
  have values : part r (if d.kind = .enumDecl then [.valuesStorage] else []) = [] := by
    split <;> simp only [part_cons, part_nil, Item.role, hf, if_false]
  rw [storageItems, part_append, values, part_headed _ hf,
    part_map (s := .storage) fun _ => rfl, List.nil_append]

theorem part_tailItems (hf : Role.frame ≠ r) (d : TypeDecl) :
    part r (tailItems d) =
      (if Role.initializer = r then (if d.initializes then [.initializer] else []) else []) ++
      (if Role.functionDefinition = r then d.functions.map .functionDefinition else []) := by
  have initializer : part r (if d.initializes then [.initializer] else []) =
      if Role.initializer = r then (if d.initializes then [.initializer] else []) else [] := by
    split
    · exact part_cons ..
    · exact (ite_self _).symm
  rw [tailItems, flatMap_functionItems]
  simp only [part_append, part_cons, part_nil, initializer, Item.role, hf, if_false,
    List.append_nil, part_map (i := .functionDefinition) (s := .functionDefinition) fun _ => rfl]

/-- The implementation of a class or enum beside declarations and
definitions of methods, role by role. -/
theorem part_layout (hk : d.kind ≠ .annotationDecl) (hf : Role.frame ≠ r)
    (hd : Role.declaration ≠ r) (hdef : Role.definition ≠ r) (hn : Role.native ≠ r) :
    part r (layout c d) =
      (if Role.variables = r then
        (if d.hasHiddenMembers c.options then
          [.extensionHead (d.instanceFields .privateOnly c.options)] else []) else []) ++
      (if Role.setter = r then d.setterItems .privateOnly c.options else []) ++
      (if Role.privatePrototype = r then
        (d.functions.filter fun f => f.isPrivate).map .privatePrototype else []) ++
      (if Role.storage = r then d.storedVariables.map fun p => .storage p.1 p.2 else []) ++
      (if Role.initializer = r then (if d.initializes then [.initializer] else []) else []) ++
      (if Role.functionDefinition = r then d.functions.map .functionDefinition else []) := by
  rw [layout_of_ne hk, headItems, flatMap_prototypeItems]
  simp only [part_append, part_cons, part_nil, part_extensionItems hf hd, part_storageItems hf,
    part_definitionItems hdef hn, part_tailItems hf, Item.role, hf, if_false, List.nil_append,
    List.append_assoc,
    part_map (i := .privatePrototype) (s := .privatePrototype) fun _ => rfl]

/-- The implementation of an annotation type is fixed text and nothing
else. -/
theorem part_layout_annotation (hk : d.kind = .annotationDecl) (hf : Role.frame ≠ r) :
    part r (layout c d) = [] := by
  rw [layout, hk]
  simp only [part_cons, part_nil, Item.role, hf, if_false]

theorem part_variables (hk : d.kind ≠ .annotationDecl) :
    part .variables (layout c d) =
      if d.hasHiddenMembers c.options then
        [.extensionHead (d.instanceFields .privateOnly c.options)] else [] := by
  rw [part_layout hk (by decide) (by decide) (by decide) (by decide)]
  simp

theorem part_setter (hk : d.kind ≠ .annotationDecl) :
    part .setter (layout c d) = d.setterItems .privateOnly c.options := by
  rw [part_layout hk (by decide) (by decide) (by decide) (by decide)]
  simp

theorem part_privatePrototype (hk : d.kind ≠ .annotationDecl) :
    part .privatePrototype (layout c d) =
      (d.functions.filter fun f => f.isPrivate).map .privatePrototype := by
  rw [part_layout hk (by decide) (by decide) (by decide) (by decide)]
  simp

theorem part_storage (hk : d.kind ≠ .annotationDecl) :
    part .storage (layout c d) = d.storedVariables.map fun p => .storage p.1 p.2 := by
  rw [part_layout hk (by decide) (by decide) (by decide) (by decide)]
  simp

theorem part_initializer (hk : d.kind ≠ .annotationDecl) :
    part .initializer (layout c d) = if d.initializes then [.initializer] else [] := by
  rw [part_layout hk (by decide) (by decide) (by decide) (by decide)]
  simp

theorem part_functionDefinition (hk : d.kind ≠ .annotationDecl) :
    part .functionDefinition (layout c d) = d.functions.map .functionDefinition := by
  rw [part_layout hk (by decide) (by decide) (by decide) (by decide)]
  simp

/-- The implementation exports nothing. -/
theorem part_eq_nil (hr : r ∈ [Role.storageExport, .accessor, .exportedPrototype,
    .initialization]) : part r (layout c d) = [] := by
  have ne : ∀ s, s ∉ [Role.storageExport, .accessor, .exportedPrototype, .initialization] →
      s ≠ r := fun s hs h => hs (h ▸ hr)
  by_cases hk : d.kind = .annotationDecl
  · exact part_layout_annotation hk (ne _ (by decide))
  · rw [part_layout hk (ne _ (by decide)) (ne _ (by decide)) (ne _ (by decide))
      (ne _ (by decide)), if_neg (ne _ (by decide)), if_neg (ne _ (by decide)),
      if_neg (ne _ (by decide)), if_neg (ne _ (by decide)), if_neg (ne _ (by decide)),
      if_neg (ne _ (by decide))]
    rfl

end Implementation

end ObjcDecl
