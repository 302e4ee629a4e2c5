import ObjcDecl.Proofs.Records
import ObjcDecl.Tree.Read
import ObjcDecl.Tree.Write

/-!
# Source units are read back

The text of a source unit is read as that unit again, if it is not nested
deeper than documents may be (`SourceUnit.ofText_toText`). Every type of
the tree has its law here, in the order in which they contain each other:
its reader gets back what was written, on its own or within a member of a
body (`buffered`).

Types and documentation tags are read by readers that count down. An
array type and a tag within a tag take a step of the reader, and they also
take a level of the document, so steps are never short.
-/

namespace ObjcDecl

open Json

/-! ## Types -/

theorem lookup_kindAlternatives (element : Reader TypeRef) (k : NamedKind) :
    (kindAlternatives element).lookup k.name = some (.plain (.named k)) := by
  cases k <;> rfl

theorem TypeRef.represents (buffered : Bool) : ∀ (t : TypeRef) (n : Nat),
    Represents n (readTypeRefWithin buffered (n + 1)) t.toJson t
  | .named k name, n => by
    have kind := lookup_kindAlternatives (readTypeRefWithin buffered n) k
    exact .record (typeRefRecord buffered (readTypeRefWithin buffered n))
      (.cons (.string name) (.cons (.plainChoice kind) .nil))
      (by simp [typeRefRecord, Fields.names])
  | .array name element, n => by
    have kind : Represents n (readChoice buffered (kindAlternatives (readTypeRefWithin buffered n)))
        (ofMembers [("array", element.toJson)]) (.arrayOf element) := by
      refine .carryingChoice rfl (element.represents buffered n).plain ?_
      -- the element has a step less to be read in, and stands a level deeper
      rintro m rfl
      exact (element.represents buffered m).map ReadKind.arrayOf
    exact .record (typeRefRecord buffered (readTypeRefWithin buffered n))
      (.cons (.string name) (.cons kind .nil))
      (by simp [typeRefRecord, Fields.names])

variable {n : Nat}

/-! ## Modifiers and annotations -/

theorem Modifier.represents (buffered : Bool) (m : Modifier) :
    Represents n (readModifier buffered) (.string m.name) m :=
  .plainChoice (by cases m <;> rfl)

/-- Modifiers are kept as they stand, repeated ones included. -/
theorem Modifiers.represents (buffered : Bool) (ms : Modifiers) :
    Represents n (readModifiers buffered) ms.toJson ms := by
  have modifiers : Represents n (readList (readModifier buffered))
      (.array (ms.toList.map fun m => .string m.name)) ms.toList :=
    .list fun m _ => m.represents buffered
  have value : ms.toJson = .array (ms.toList.map fun m => .string m.name) := by
    simp [Modifiers.toJson, stringsJson]
  exact value ▸ modifiers.map Modifiers.mk

theorem Annotation.represents (a : Annotation) :
    Represents n annotationRecord.read a.toJson a :=
  .record annotationRecord (.cons (.string a.typeName) .nil)
    (by simp [annotationRecord, Fields.names])

/-! ## Documentation comments -/

theorem represents_optionalString (s : Option String) :
    Represents n (readOption readString) (optionalString s) s :=
  .option .string nofun s

theorem fragmentsJson_eq (fs : List DocFragment) :
    fragmentsJson fs = fs.map DocFragment.toJson := by
  induction fs with
  | nil => rfl
  | cons f fs ih => rw [fragmentsJson, ih, List.map_cons]

/-- Reads a fragment with fewer than the given number of tags around each
other in it. -/
abbrev readFragmentWithin (buffered : Bool) (n : Nat) : Reader DocFragment :=
  readChoice buffered (fragmentAlternatives (readDocTagWithin buffered n))

/-- A tag is read back if its fragments are. -/
theorem DocTag.represents_of_fragments (buffered : Bool) {t : DocTag}
    (h : ∀ f ∈ t.fragments, Represents n (readFragmentWithin buffered n) f.toJson f) :
    Represents n (readDocTagWithin buffered (n + 1)) t.toJson t := by
  have fragments := Represents.list h
  rw [← fragmentsJson_eq] at fragments
  exact .record (docTagRecord (readFragmentWithin buffered n))
    (.cons (represents_optionalString t.name) (.cons fragments .nil))
    (by simp [docTagRecord, Fields.names])

mutual

theorem DocFragment.represents (buffered : Bool) : ∀ (f : DocFragment) (n : Nat),
    Represents n (readFragmentWithin buffered n) f.toJson f
  | .text s, n => .carryingChoice rfl rfl fun _ _ => (Represents.string s).map DocFragment.text
  | .reference s, n =>
    .carryingChoice rfl rfl fun _ _ => (Represents.string s).map DocFragment.reference
  | .tag name fs, n => by
    have tag (n : Nat) : Represents n (readDocTagWithin buffered (n + 1))
        (DocTag.toJson ⟨name, fs⟩) ⟨name, fs⟩ :=
      DocTag.represents_of_fragments buffered (fragments_represent buffered fs n)
    refine .carryingChoice rfl (tag n).plain ?_
    rintro m rfl
    exact (tag m).map DocTag.toFragment

theorem fragments_represent (buffered : Bool) : ∀ (fs : List DocFragment) (n : Nat), ∀ f ∈ fs,
    Represents n (readFragmentWithin buffered n) f.toJson f
  | [], _ => List.forall_mem_nil _
  | f :: fs, n =>
    List.forall_mem_cons.mpr ⟨f.represents buffered n, fragments_represent buffered fs n⟩

end

theorem Doc.represents (buffered : Bool) (d : Doc) :
    Represents depthLimit (readDoc buffered) d.toJson d := by
  have tag (t : DocTag) : Represents depthLimit (readDocTag buffered) t.toJson t :=
    t.represents_of_fragments buffered (fragments_represent buffered t.fragments depthLimit)
  exact .record (docRecord buffered) (.cons (.list fun t _ => tag t) .nil)
    (by simp [docRecord, Fields.names])

theorem represents_optionalDoc (buffered : Bool) (d : Option Doc) :
    Represents depthLimit (readOption (readDoc buffered)) (optionalDoc d) d :=
  .option (Doc.represents buffered) nofun d

/-! ## Members -/

section Members

variable (buffered : Bool)

theorem represents_type (t : TypeRef) :
    Represents depthLimit (readTypeRef buffered) t.toJson t :=
  t.represents buffered depthLimit

theorem represents_lines (ss : List String) :
    Represents n (readList readString) (stringsJson ss) ss :=
  .list fun s _ => .string s

theorem Parameter.represents (p : Parameter) :
    Represents depthLimit (parameterRecord buffered).read p.toJson p :=
  .record (parameterRecord buffered)
    (.cons (.string p.name) (.cons (represents_type buffered p.type) .nil))
    (by simp [parameterRecord, Fields.names])

theorem represents_parameters (ps : List Parameter) :
    Represents depthLimit (readList (parameterRecord buffered).read)
      (.array (ps.map Parameter.toJson)) ps :=
  .list fun p _ => p.represents buffered

theorem Method.represents (m : Method) :
    Represents depthLimit (methodRecord buffered).read (ofMembers m.members) m :=
  .record (methodRecord buffered)
    (.cons (.string m.name)
    (.cons (represents_type buffered m.owner)
    (.cons (m.modifiers.represents buffered)
    (.cons (.bool m.isConstructor)
    (.cons (represents_type buffered m.returnType)
    (.cons (represents_parameters buffered m.parameters)
    (.cons (.list fun a _ => a.represents)
    (.cons (represents_optionalDoc buffered m.doc)
    (.cons (represents_optionalString m.selector)
    (.cons (represents_lines m.body) .nil))))))))))
    (by simp [methodRecord, Fields.names])

theorem Binding.represents (b : Binding) : Represents n bindingRecord.read b.toJson b :=
  .record bindingRecord
    (.cons (.bool b.isStatic) (.cons (.bool b.isWeak) (.cons (.bool b.isPrimitiveConstant) .nil)))
    (by simp [bindingRecord, Fields.names])

theorem Variable.represents (v : Variable) : Represents n variableRecord.read v.toJson v :=
  .record variableRecord (.cons (.string v.name) (.cons v.binding.represents .nil))
    (by simp [variableRecord, Fields.names])

theorem Field.represents (f : Field) :
    Represents depthLimit (fieldRecord buffered).read (ofMembers f.members) f :=
  .record (fieldRecord buffered)
    (.cons (f.modifiers.represents buffered)
    (.cons (represents_type buffered f.type)
    (.cons (.list fun v _ => v.represents)
    (.cons (represents_optionalDoc buffered f.doc) .nil))))
    (by simp [fieldRecord, Fields.names])

theorem Function.represents (f : Function) :
    Represents depthLimit (functionRecord buffered).read (ofMembers f.members) f :=
  .record (functionRecord buffered)
    (.cons (.string f.name)
    (.cons (represents_type buffered f.returnType)
    (.cons (represents_parameters buffered f.parameters)
    (.cons (f.modifiers.represents buffered)
    (.cons (represents_lines f.body) .nil)))))
    (by simp [functionRecord, Fields.names])

theorem NativeBlock.represents (b : NativeBlock) :
    Represents n nativeRecord.read (ofMembers b.members) b :=
  .record nativeRecord
    (.cons (represents_optionalString b.headerCode)
    (.cons (represents_optionalString b.implementationCode) .nil))
    (by simp [nativeRecord, Fields.names])

theorem AnnotationMember.represents (m : AnnotationMember) :
    Represents depthLimit (annotationMemberRecord buffered).read (ofMembers m.members) m :=
  .record (annotationMemberRecord buffered)
    (.cons (.string m.name) (.cons (represents_type buffered m.type) .nil))
    (by simp [annotationMemberRecord, Fields.names])

end Members

/-! ## Bodies -/

/-- After the kind, members that do not name another one are kept. -/
theorem takeKind_named (r : Reader Member) {ms : List (String × Json)}
    (noKind : "kind" ∉ ms.map (·.1)) (readable : membersReadable (named ms) = true) :
    takeKind (some r) (named ms) = .ok (some r, named ms) := by
  induction ms with
  | nil => rfl
  | cons m ms ih =>
    obtain ⟨k, j⟩ := m
    simp only [List.map_cons, List.mem_cons, not_or] at noKind
    simp only [named_cons, membersReadable, Bool.and_eq_true] at readable
    have other : k ≠ "kind" := fun same => noKind.1 same.symm
    rw [named_cons, takeKind, if_neg other, if_pos readable.1.2, ih noKind.2 readable.2]
    rfl

/-- A member is read as what the reader for its kind makes of its fields,
none of which may be called like the kind. -/
theorem represents_member {k : String} {r : Reader Member} {ms : List (String × Json)} {m : Member}
    (found : memberReaders.lookup k = some r) (noKind : "kind" ∉ ms.map (·.1))
    (h : Represents n r (ofMembers ms) m) :
    Represents n readMember (ofMembers (("kind", .string k) :: ms)) m where
  plain := by
    have plain := h.plain
    simp only [ofMembers_eq, isPlain] at plain
    simp [ofMembers_eq, named_cons, isPlain, membersPlain, plain]
  read depth := by
    have readable : membersReadable (named ms) = true := isReadable_of_isPlain h.plain
    have fields : (ofMembers ms).depth ≤ n := by
      simpa [ofMembers_eq, named_cons, Json.depth, membersDepth] using depth
    have taken : takeKind none (named (("kind", .string k) :: ms)) = .ok (some r, named ms) := by
      simp only [named_cons, takeKind, if_true, readMemberKind, found]
      exact takeKind_named r noKind readable
    -- without the kind, what is left is no deeper than the whole
    rw [ofMembers_eq, readMember, taken]
    exact h.read fields

theorem Member.represents : ∀ m : Member, Represents depthLimit readMember m.toJson m
  | .method m =>
    represents_member rfl (by simp [Member.fields, Method.members])
      ((m.represents true).map Member.method)
  | .field f =>
    represents_member rfl (by simp [Member.fields, Field.members])
      ((f.represents true).map Member.field)
  | .function f =>
    represents_member rfl (by simp [Member.fields, Function.members])
      ((f.represents true).map Member.function)
  | .native b =>
    represents_member rfl (by simp [Member.fields, NativeBlock.members])
      (b.represents.map Member.native)
  | .initializer isStatic =>
    represents_member rfl (by simp [Member.fields])
      (.record initializerRecord (.cons (.bool isStatic) .nil)
        (by simp [initializerRecord, Fields.names]))
  | .enumConstant name =>
    represents_member rfl (by simp [Member.fields])
      (.record enumConstantRecord (.cons (.string name) .nil)
        (by simp [enumConstantRecord, Fields.names]))
  | .annotationMember m =>
    represents_member rfl (by simp [Member.fields, AnnotationMember.members])
      ((m.represents true).map Member.annotationMember)

/-! ## Units -/

theorem DeclKind.represents (k : DeclKind) : Represents n readDeclKind (.string k.name) k :=
  .plainChoice (by cases k <;> rfl)

theorem represents_optionalType (t : Option TypeRef) :
    Represents depthLimit (readOption (readTypeRef false)) (optionalType t) t :=
  .option (represents_type false) (fun t => by cases t <;> nofun) t

theorem TypeDecl.represents (d : TypeDecl) : Represents depthLimit typeDeclRecord.read d.toJson d :=
  .record typeDeclRecord
    (.cons d.kind.represents
    (.cons (represents_type false d.type)
    (.cons (represents_optionalType d.superclass)
    (.cons (.list fun t _ => represents_type false t)
    (.cons (d.modifiers.represents false)
    (.cons (represents_optionalDoc false d.doc)
    (.cons (.list fun m _ => m.represents)
    (.cons (represents_lines d.classInit) .nil))))))))
    (by simp [typeDeclRecord, Fields.names])

theorem SourceUnit.represents (u : SourceUnit) :
    Represents depthLimit sourceUnitRecord.read u.toJson u :=
  .record sourceUnitRecord
    (.cons (.string u.sourcePath) (.cons (.list fun d _ => d.represents) .nil))
    (by simp [sourceUnitRecord, Fields.names])

/-- A unit that is not nested too deep is what its text is read as. -/
theorem SourceUnit.ofText_toText (u : SourceUnit) (h : u.toJson.depth ≤ depthLimit) :
    SourceUnit.ofText u.toText = .ok u := by
  have unit := u.represents
  rw [SourceUnit.ofText, SourceUnit.toText, readText, ofText_render unit.plain]
  simp only [readLimited, limit_of_depth_le h, unit.read h]
  rfl

/-- A class with members of every kind, among them an array of arrays, tags
within tags, a modifier that is repeated, and texts that need escapes. -/
def mixedUnit : SourceUnit :=
  let bytes : TypeRef := .arrayOf (.arrayOf (.primitive "byte"))
  let link : DocFragment := .tag (some "@link") [.reference "kind", .tag none [.text "\x01\t\\"]]
  let doc : Doc := ⟨[⟨none, [.text "\"Größe\" 📦", link]⟩]⟩
  { sourcePath := "a/Größe.java"
    types := [
      { TypeDecl.ofClass "Größe" with
        superclass := some .string
        modifiers := ⟨[.publicAccess, .publicAccess]⟩
        doc := some doc
        body := [
          .method { Method.constructorOf bytes with parameters := [⟨"bytes", bytes⟩], doc := doc },
          .field { type := bytes, vars := [{ name := "kind" }] },
          .function { name := "f", returnType := bytes, body := ["return nil;", ""] },
          .native { headerCode := some "#define A\n" },
          .initializer true,
          .enumConstant "kind",
          .annotationMember ⟨"value", bytes⟩] }] }

theorem ofText_mixedUnit : mixedUnit.toJson.depth = 16 ∧ 16 ≤ depthLimit ∧
    SourceUnit.ofText mixedUnit.toText = .ok mixedUnit := by
  have depth : mixedUnit.toJson.depth = 16 := by decide
  have fits : 16 ≤ depthLimit := by decide
  exact ⟨depth, fits, SourceUnit.ofText_toText mixedUnit (depth ▸ fits)⟩

end ObjcDecl
