import ObjcDecl.GeneratedFiles
import ObjcDecl.Proofs.FieldPrinting
import ObjcDecl.Proofs.Selectors

/-!
# The marks of pointers

The `*` of a pointer belongs to the declared name and not to the type that
several names share: `Node *first, second;` declares a pointer and an
object. So a statement prints its type without the `*` and gives each name
one of its own, where the type has one at all. Whether it has is asked in
two ways. A statement looks at the kind of the type and tells by the whole
text which references have no mark; the declaration of a single name
(`declarator`) looks at the last character.

`TypeParts` says what becomes of a type's text, and every type but the
primitive ones is a case of it (`Naming.Prefixed.exists_typeParts`). Both ways
are read off from it, so each name of a statement is declared as it would
be alone (`statements_keep_types`).
-/

namespace ObjcDecl

/-- The text of a type, what several names share of it, and the mark that
each name has before it. -/
inductive TypeParts : (typeText shared mark : String) → Prop where
  | object : TypeParts "id" "id" ""
  | protocol (name : String) : TypeParts ("id<" ++ name ++ ">") ("id<" ++ name ++ ">") ""
  | pointer (shared : String) : TypeParts (shared ++ " *") shared "*"

/-- An ending that is there is taken off. -/
theorem dropEnding_append (ending s : String) : dropEnding ending (s ++ ending) = s := by
  have ends : ending.toList.isSuffixOf (s ++ ending).toList = true := by
    rw [String.toList_append]
    exact List.isSuffixOf_iff_suffix.mpr (List.suffix_append ..)
  rw [dropEnding, if_pos ends]
  simp

/-- A text ends as its ending does. -/
theorem endsIn_append (c : Char) {ending : String} (h : ending.toList ≠ []) (s : String) :
    endsIn c (s ++ ending) = endsIn c ending := by
  rw [endsIn, endsIn, String.toList_append, List.getLast?_append_of_ne_nil _ h]

namespace TypeParts

variable {typeText shared mark : String}

/-- A name alone is declared with what is shared and its mark. -/
theorem declarator (h : TypeParts typeText shared mark) (name : String) :
    declarator typeText name = shared ++ " " ++ (mark ++ name) := by
  cases h with
  | object => rw [String.empty_append, ObjcDecl.declarator, if_neg (by decide)]
  | protocol p =>
    have last : endsIn '*' ("id<" ++ p ++ ">") = false := endsIn_append '*' (by decide) _
    rw [String.empty_append, ObjcDecl.declarator, last, if_neg Bool.false_ne_true]
  | pointer =>
    have last : endsIn '*' (shared ++ " *") = true := endsIn_append '*' (by decide) _
    have mark : " *" = " " ++ "*" := by decide
    rw [ObjcDecl.declarator, if_pos last, mark]
    simp only [String.append_assoc]

/-- The types without a mark are those that are references by
themselves. -/
theorem isReferenceText (h : TypeParts typeText shared mark) :
    isReferenceText typeText = true ∧ shared = typeText ∧ mark = "" ∨
      isReferenceText typeText = false ∧ typeText = shared ++ " *" ∧ mark = "*" := by
  cases h with
  | object => exact .inl ⟨by decide, rfl, rfl⟩
  | protocol p =>
    have opens : "id<".toList.isPrefixOf ("id<" ++ p ++ ">").toList = true := by simp
    have closes : endsIn '>' ("id<" ++ p ++ ">") = true := endsIn_append '>' (by decide) _
    refine .inl ⟨?_, rfl, rfl⟩
    rw [ObjcDecl.isReferenceText, opens, ← endsIn, closes, Bool.and_self, Bool.or_true]
  | pointer =>
    -- the others end in `d`, `s` and `>`
    have last (c : Char) : endsIn c (shared ++ " *") = endsIn c " *" :=
      endsIn_append c (by decide) _
    have ne {s : String} (hs : endsIn '*' s = false) : (shared ++ " *" == s) = false :=
      beq_false_of_ne fun same => absurd ((last '*').symm.trans (same ▸ hs)) (by decide)
    refine .inr ⟨?_, rfl, rfl⟩
    rw [ObjcDecl.isReferenceText, ne (by decide), ne (by decide), ← endsIn, last]
    exact Bool.and_false _

/-- A statement prints what is shared, and the mark before each name. -/
theorem field {names : Naming} {f : Field}
    (h : TypeParts (names.specificTypeText f.type) shared mark)
    (reference : f.type.isPrimitive = false) :
    f.sharedType names = shared ∧ f.pointerMark names = mark := by
  simp only [Field.sharedType, Field.pointerMark, needsPointerMarker, reference, Bool.not_false,
    Bool.true_and]
  rcases h.isReferenceText with ⟨plain, rfl, rfl⟩ | ⟨pointer, text, rfl⟩
  · simp [plain]
  · rw [pointer, text]
    exact ⟨dropEnding_append .., rfl⟩

end TypeParts

/-- A type whose source names hold no mark. -/
def TypeRef.StarFree (t : TypeRef) : Prop := ∀ n ∈ t.names, '*' ∉ n.toList

namespace Naming.Prefixed

theorem star_not_mem_fullName {t : TypeRef} (h : t.StarFree) : '*' ∉ (fullName t).toList := by
  refine not_mem_fullName (by decide) (by decide) ?_
  cases t <;> exact h _ List.mem_cons_self

/-- Every type but a primitive one is an object, a protocol or a pointer,
and what names share of it holds no mark of its own. -/
theorem exists_typeParts {t : TypeRef} (reference : t.isPrimitive = false) :
    ∃ shared mark, TypeParts (specificTypeText t) shared mark ∧
      (t.StarFree → '*' ∉ shared.toList) := by
  cases t with
  | named kind n =>
    cases kind with
    | primitive => cases reference
    | classType => exact ⟨_, _, .pointer _, star_not_mem_fullName⟩
    | interfaceType =>
      refine ⟨_, _, .protocol _, fun free => ?_⟩
      simpa using star_not_mem_fullName free
    | rootObject => exact ⟨_, _, .object, fun _ => by decide⟩
    | classHandle => exact ⟨_, _, .pointer "IOSClass", fun _ => by decide⟩
  | array n element =>
    cases element with
    | array m inner => exact ⟨_, _, .pointer "IOSObjectArray", fun _ => by decide⟩
    | named kind m =>
      cases kind with
      | primitive =>
        have mark : "Array *" = "Array" ++ " *" := by decide
        have text : specificTypeText (.array n (.named .primitive m)) =
            "IOS" ++ Text.capitalize m ++ "Array" ++ " *" := by
          simp only [specificTypeText, typeText, mark, String.append_assoc]
        refine ⟨_, _, text ▸ TypeParts.pointer _, fun free => ?_⟩
        have name : '*' ∉ m.toList := free m (List.mem_cons_of_mem _ List.mem_cons_self)
        simpa [Text.capitalize] using Unicode.not_mem_capitalize (by decide) (by decide) name
      | _ => exact ⟨_, _, .pointer "IOSObjectArray", fun _ => by decide⟩

end Naming.Prefixed

/-- Names share a text and have a mark each, so that each of them is of the
given type: it is declared as if it was alone, and a mark stands before it
exactly if the type is a pointer. -/
structure KeepsType (t : TypeRef) (shared mark : String) : Prop where
  alone : ∀ name, shared ++ " " ++ (mark ++ name) =
    declarator (Naming.prefixed.specificTypeText t) name
  parts : TypeParts (Naming.prefixed.specificTypeText t) shared mark
  /-- A mark is never doubled. -/
  starFree : t.StarFree → '*' ∉ shared.toList

/-- A statement of references is printed, after its comment, the margin and
the qualifier, as a text that its names share and the names in a row, each
after its mark, and the two keep the type of each name. -/
theorem statements_keep_types (w : Writer) (prefixed : w.context.naming = .prefixed)
    (d : TypeDecl) (v : FieldVisibility) :
    (∀ added, w.Adds (.instanceVariables d v) added ↔
      (∀ f ∈ d.instanceFields v w.context.options, f.vars ≠ []) ∧
        added = w.variablesText (d.instanceFields v w.context.options)) ∧
    ∀ f ∈ d.instanceFields v w.context.options, f.type.isPrimitive = false →
      ∃ shared mark, KeepsType f.type shared mark ∧
        w.statementText f =
          (DocComment.block w.context.detect f.doc).render w.sink.unit (w.sink.level + 1) ++
            margin w.sink.unit (w.sink.level + 1) ++ (Field.weakQualifier f.vars ++
              (shared ++ " " ++ ", ".intercalate
                (f.vars.map fun x => mark ++ Naming.prefixed.fieldName x.name) ++ ";")) ++
            "\n" := by
  refine ⟨fun _ => Writer.adds_instanceVariables_iff, fun f _ reference => ?_⟩
  obtain ⟨shared, mark, parts, starFree⟩ := Naming.Prefixed.exists_typeParts reference
  obtain ⟨sharedType, pointerMark⟩ :
      f.sharedType .prefixed = shared ∧ f.pointerMark .prefixed = mark := parts.field reference
  refine ⟨shared, mark, ⟨fun name => (parts.declarator name).symm, parts, starFree⟩, ?_⟩
  rw [Writer.statementText, Field.declaration, Field.declarators, prefixed, sharedType, pointerMark]
  simp only [String.append_assoc]

/-- Two references that share a statement. -/
def ringLinks : Field :=
  { type := .ofClass "Ring", vars := [⟨"next", {}⟩, ⟨"last", {}⟩] }

/-- A class with these references. -/
def ring : TypeDecl :=
  { kind := .classDecl, type := .ofClass "Ring", body := [.field ringLinks] }

/-- Both references are printed as pointers to the class. -/
theorem statements_keep_types_ring :
    (SourceUnit.context {}).naming = .prefixed ∧
    ringLinks ∈ ring.instanceFields .nonPrivate {} ∧ ringLinks.type.isPrimitive = false ∧
    Writer.statementText { context := SourceUnit.context {} } ringLinks =
      "  Ring *next_, *last_;\n" ∧
    ∃ shared mark, KeepsType ringLinks.type shared mark ∧
      Writer.statementText { context := SourceUnit.context {} } ringLinks =
        "" ++ "  " ++ ("" ++ (shared ++ " " ++
          ", ".intercalate [mark ++ "next_", mark ++ "last_"] ++ ";")) ++ "\n" := by
  have printed : ringLinks ∈ ring.instanceFields .nonPrivate {} := List.mem_singleton.mpr rfl
  refine ⟨rfl, printed, rfl, by decide +kernel, ?_⟩
  exact (statements_keep_types { context := SourceUnit.context {} } rfl ring .nonPrivate).2
    ringLinks printed rfl

end ObjcDecl
