import ObjcDecl.Proofs.FaithfulRecords

/-!
# A unit does not depend on its document's presentation

Documents that present one another are read as the same unit
(`SourceUnit.ofText_of_presents`). The readers of the tree are held against
the tables of the format, one after the other in the order in which they
contain each other: every field has a member of the table, of its name and
with its default, and no reader looks at anything else.
-/

namespace ObjcDecl

open Json Format

/-! ## Types, modifiers and annotations -/

/-- A choice of names alone. -/
theorem faithful_names {α β : Type} (buffered : Bool) (names : List (String × β)) (f : β → α) :
    Faithful (.choice .name) (readChoice buffered (names.map fun (n, x) => (n, .plain (f x)))) := by
  refine .choice fun m hm => ?_
  obtain ⟨_, _, rfl⟩ := List.mem_map.mp hm
  exact .plain _ rfl

theorem faithful_typeRefWithin (buffered : Bool) :
    ∀ n, Faithful (.struct .typeRef) (readTypeRefWithin buffered n)
  | 0 => .scalar (fun _ _ => nofun) (fun _ _ => nofun) (fun _ => nofun) fun _ => nofun
  | n + 1 => by
    have named : ∀ m ∈ NamedKind.names, Choice.typeKind.shape m.1 = .plain := by decide
    have element := (faithful_typeRefWithin buffered n).map ReadKind.arrayOf
    have kinds : ∀ m ∈ kindAlternatives (readTypeRefWithin buffered n),
        Carries (Choice.typeKind.shape m.1) m.2 := by
      refine List.forall_mem_append.mpr ⟨fun m hm => ?_, List.forall_mem_singleton.mpr ?_⟩
      · obtain ⟨⟨name, k⟩, hk, rfl⟩ := List.mem_map.mp hm
        exact .plain _ (named _ hk)
      · exact .carrying element
    exact .record (typeRefRecord buffered (readTypeRefWithin buffered n))
      (.cons rfl .text rfl (.cons rfl (.choice kinds) rfl .nil)) rfl

theorem faithful_typeRef (buffered : Bool) : Faithful (.struct .typeRef) (readTypeRef buffered) :=
  faithful_typeRefWithin buffered (depthLimit + 1)

theorem faithful_modifiers (buffered : Bool) :
    Faithful (.list (.choice .name)) (readModifiers buffered) :=
  .map (.list (faithful_names buffered Modifier.names id)) Modifiers.mk

theorem faithful_annotationUse : Faithful (.struct .annotationUse) annotationRecord.read :=
  .record annotationRecord (.cons rfl .text rfl .nil) rfl

/-! ## Documentation comments -/

theorem faithful_docTagWithin (buffered : Bool) :
    ∀ n, Faithful (.struct .docTag) (readDocTagWithin buffered n)
  | 0 => .scalar (fun _ _ => nofun) (fun _ _ => nofun) (fun _ => nofun) fun _ => nofun
  | n + 1 => by
    have tag := (faithful_docTagWithin buffered n).map DocTag.toFragment
    have fragments : ∀ m ∈ fragmentAlternatives (readDocTagWithin buffered n),
        Carries (Choice.docFragment.shape m.1) m.2 := by
      simp only [fragmentAlternatives, List.forall_mem_cons]
      exact ⟨.carrying (.map .text _), .carrying tag, .carrying (.map .text _), nofun⟩
    exact .record (docTagRecord _)
      (.cons rfl (.option .text) rfl (.cons rfl (.list (.choice fragments)) rfl .nil)) rfl

theorem faithful_doc (buffered : Bool) : Faithful (.struct .doc) (readDoc buffered) :=
  .record (docRecord buffered)
    (.cons rfl (.list (faithful_docTagWithin buffered _)) rfl .nil) rfl

/-! ## Members -/

section Members

variable (buffered : Bool)

theorem faithful_parameter : Faithful (.struct .parameter) (parameterRecord buffered).read :=
  .record (parameterRecord buffered)
    (.cons rfl .text rfl (.cons rfl (faithful_typeRef buffered) rfl .nil)) rfl

theorem faithful_method : Faithful (.struct .method) (methodRecord buffered).read :=
  .record (methodRecord buffered)
    (.cons rfl .text rfl
    (.cons rfl (faithful_typeRef buffered) rfl
    (.cons rfl (faithful_modifiers buffered) rfl
    (.cons rfl .truth rfl
    (.cons rfl (faithful_typeRef buffered) rfl
    (.cons rfl (.list (faithful_parameter buffered)) rfl
    (.cons rfl (.list faithful_annotationUse) rfl
    (.cons rfl (.option (faithful_doc buffered)) rfl
    (.cons rfl (.option .text) rfl
    (.cons rfl (.list .text) rfl .nil)))))))))) rfl

theorem faithful_binding : Faithful (.struct .binding) bindingRecord.read :=
  .record bindingRecord
    (.cons rfl .truth rfl (.cons rfl .truth rfl (.cons rfl .truth rfl .nil))) rfl

theorem faithful_variable : Faithful (.struct .var) variableRecord.read :=
  .record variableRecord (.cons rfl .text rfl (.cons rfl faithful_binding rfl .nil)) rfl

theorem faithful_field : Faithful (.struct .field) (fieldRecord buffered).read :=
  .record (fieldRecord buffered)
    (.cons rfl (faithful_modifiers buffered) rfl
    (.cons rfl (faithful_typeRef buffered) rfl
    (.cons rfl (.list faithful_variable) rfl
    (.cons rfl (.option (faithful_doc buffered)) rfl .nil)))) rfl

theorem faithful_function : Faithful (.struct .function) (functionRecord buffered).read :=
  .record (functionRecord buffered)
    (.cons rfl .text rfl
    (.cons rfl (faithful_typeRef buffered) rfl
    (.cons rfl (.list (faithful_parameter buffered)) rfl
    (.cons rfl (faithful_modifiers buffered) rfl
    (.cons rfl (.list .text) rfl .nil))))) rfl

theorem faithful_native : Faithful (.struct .native) nativeRecord.read :=
  .record nativeRecord (.cons rfl (.option .text) rfl (.cons rfl (.option .text) rfl .nil)) rfl

theorem faithful_initializer : Faithful (.struct .initializer) initializerRecord.read :=
  .record initializerRecord (.cons rfl .truth rfl .nil) rfl

theorem faithful_enumConstant : Faithful (.struct .enumConstant) enumConstantRecord.read :=
  .record enumConstantRecord (.cons rfl .text rfl .nil) rfl

theorem faithful_annotationMember :
    Faithful (.struct .annotationMember) (annotationMemberRecord buffered).read :=
  .record (annotationMemberRecord buffered)
    (.cons rfl .text rfl (.cons rfl (faithful_typeRef buffered) rfl .nil)) rfl

end Members

theorem faithful_member : Faithful .bodyMember readMember := by
  refine .bodyMember ?_
  simp only [memberReaders, List.forall_mem_cons]
  exact ⟨⟨.method, rfl, (faithful_method true).map _⟩, ⟨.field, rfl, (faithful_field true).map _⟩,
    ⟨.function, rfl, (faithful_function true).map _⟩, ⟨.native, rfl, faithful_native.map _⟩,
    ⟨.initializer, rfl, faithful_initializer⟩, ⟨.enumConstant, rfl, faithful_enumConstant⟩,
    ⟨.annotationMember, rfl, (faithful_annotationMember true).map _⟩, nofun⟩

/-! ## Units -/

theorem faithful_typeDecl : Faithful (.struct .typeDecl) typeDeclRecord.read :=
  .record typeDeclRecord
    (.cons rfl (faithful_names false DeclKind.names id) rfl
    (.cons rfl (faithful_typeRef false) rfl
    (.cons rfl (.option (faithful_typeRef false)) rfl
    (.cons rfl (.list (faithful_typeRef false)) rfl
    (.cons rfl (faithful_modifiers false) rfl
    (.cons rfl (.option (faithful_doc false)) rfl
    (.cons rfl (.list faithful_member) rfl
    (.cons rfl (.list .text) rfl .nil)))))))) rfl

theorem faithful_sourceUnit : Faithful (.struct .sourceUnit) sourceUnitRecord.read :=
  .record sourceUnitRecord (.cons rfl .text rfl (.cons rfl (.list faithful_typeDecl) rfl .nil)) rfl

/-- What a unit was read from is read in whole, though only what is not
nested too deep was seen. -/
theorem SourceUnit.read_of_ofText {s : String} {u : SourceUnit}
    (decoded : SourceUnit.ofText s = .ok u) :
    sourceUnitRecord.read (Json.ofText s).value = .ok u := by
  obtain ⟨x, limited, result⟩ := Emission.bind_eq_ok.mp decoded
  split at result
  · cases result
    exact faithful_sourceUnit.limit depthLimit _ _ limited
  · cases result

/-- A document that presents another one otherwise, and is not nested too
deep, is read as the same unit. -/
theorem SourceUnit.ofText_of_presents {s s' : String} {u : SourceUnit}
    (decoded : SourceUnit.ofText s = .ok u)
    (presents : Presents (.struct .sourceUnit) (Json.ofText s).value (Json.ofText s').value)
    (whole : (Json.ofText s').isWhole = true) (depth : (Json.ofText s').value.depth ≤ depthLimit) :
    SourceUnit.ofText s' = .ok u := by
  have read := faithful_sourceUnit.presents presents u (SourceUnit.read_of_ofText decoded)
  simp only [SourceUnit.ofText, readText, readLimited, limit_of_depth_le depth, read, whole]
  rfl

/-- The document of a class with some members. -/
def classDocument (members : List Json) : Json :=
  .ofMembers [
    ("types", .array [.ofMembers [("body", .array members), ("kind", .string "class"),
      ("ty", .ofMembers [("name", .string "A"), ("kind", .string "class")])]]),
    ("source_path", .string "a/A.java")]

/-- The members of a field statement, apart from its kind. -/
def fieldMembers : List (Option String × Json) :=
  [(some "ty", .ofMembers [("name", .string "A"), ("kind", .string "class")]),
   (some "fragments", .array [.ofMembers [("name", .string "x")]])]

/-- A class with a field, whose kind stands first. -/
def fieldDocument : Json :=
  classDocument [.object ((some "kind", .string "field") :: fieldMembers)]

/-- The same class. The kind of the field stands last, its modifiers are
written out, and one of its members is not known. -/
def fieldDocumentAgain : Json :=
  classDocument [.object ((some "modifiers", .array []) ::
    (some "since", .ofMembers [("kind", .null)]) :: fieldMembers ++
      [(some "kind", .string "field")])]

/-- The unit of both documents. -/
def fieldUnit : SourceUnit :=
  { sourcePath := "a/A.java"
    types := [{ TypeDecl.ofClass "A" with
      body := [.field { type := .ofClass "A", vars := [{ name := "x" }] }] }] }

theorem presents_classDocument {m m' : Json} (h : Presents .bodyMember m m') :
    Presents (.struct .sourceUnit) (classDocument [m]) (classDocument [m']) :=
  h.lift (fun m => classDocument [m]) fun _ _ change =>
    .member (@Change.listItem _ _ _ [] [] (.member (@Change.listItem _ _ _ [] [] change)))

theorem presents_fieldDocument :
    Presents (.struct .sourceUnit) fieldDocument fieldDocumentAgain := by
  let kind : Option String × Json := (some "kind", .string "field")
  let since : Option String × Json := (some "since", .ofMembers [("kind", .null)])
  let modifiers : Option String × Json := (some "modifiers", .array [])
  have unknown : Change .bodyMember (.object (kind :: fieldMembers))
      (.object (kind :: since :: fieldMembers)) := .body rfl (by decide) (.added (by decide) rfl)
  have known : Entry.repeated "modifiers" (.choice .name) ∈ Struct.field.entries :=
    List.mem_cons_self
  have missing : some "modifiers" ∉ (since :: fieldMembers).map (·.1) := by decide
  have default : Change .bodyMember (.object (kind :: since :: fieldMembers))
      (.object (kind :: modifiers :: since :: fieldMembers)) :=
    .body rfl (by decide) (.written known rfl missing)
  have moved := List.perm_append_singleton kind (modifiers :: since :: fieldMembers)
  exact presents_classDocument (.tail (.tail (.single unknown) default) (.reordered moved.symm))

theorem ofText_fieldDocumentAgain :
    SourceUnit.ofText (render fieldDocument) = .ok fieldUnit ∧
      Presents (.struct .sourceUnit) fieldDocument fieldDocumentAgain ∧
      fieldDocumentAgain.depth ≤ depthLimit ∧
      SourceUnit.ofText (render fieldDocumentAgain) = .ok fieldUnit := by
  have text : Json.ofText (render fieldDocument) = ⟨fieldDocument, true⟩ :=
    ofText_render (by decide)
  have text' : Json.ofText (render fieldDocumentAgain) = ⟨fieldDocumentAgain, true⟩ :=
    ofText_render (by decide)
  have decoded : SourceUnit.ofText (render fieldDocument) = .ok fieldUnit := by
    rw [SourceUnit.ofText, readText, text]
    rfl
  have depth : fieldDocumentAgain.depth ≤ depthLimit := by decide
  refine ⟨decoded, presents_fieldDocument, depth, SourceUnit.ofText_of_presents decoded ?_ ?_ ?_⟩
  · rw [text, text']
    exact presents_fieldDocument
  · rw [text']
  · rwa [text']

end ObjcDecl
