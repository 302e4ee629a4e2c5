import ObjcDecl.GeneratedFiles
import ObjcDecl.Proofs.Layout.Parts
import ObjcDecl.Proofs.Methods

/-!
# Constants are numbered and counted alike

The constants of an enum stand anywhere among the members of its body. The
header numbers them, exports the array that holds them and gives an
accessor to each. The implementation defines the array, and two methods
that no body has go through it: `values` hands it over with a count, and
`valueOf` searches it up to a bound. Each of these places selects the
constants and names the array by itself, and one that counts further than
the array is long reads past its end.

A `ConstantTable` is what the places have to agree on, with the text that
each of them has by it: a constant's number is its position in the table,
and every size is the length of the table. `ConstantsAgree` says that two
files print these texts and say nothing else of the constants; it holds of
the two files of every enum (`constantsAgree_of_enum`).
-/

namespace ObjcDecl

/-! ## Tables of constants -/

/-- The constants of an enum in the target. -/
structure ConstantTable where
  /-- The target name of the enum. -/
  typeName : String
  /-- The array that holds the constants. -/
  array : String
  /-- The names of the constants, in order. -/
  names : List String

namespace ConstantTable

variable (t : ConstantTable)

/-- The number of the constants, written out. -/
def size : String := toString t.names.length

/-- The type of the constants' numbers. -/
def enumName : String := t.typeName ++ "_Enum"

/-- A constant with its number, which is its position. -/
def enumerator (i : Fin t.names.length) : Line :=
  .nested 1 (t.enumName ++ "_" ++ t.names[i] ++ " = " ++ toString i.val ++ ",")

/-- The enumeration of the constants. -/
def enumeration : Block :=
  [.blank, .flush ("typedef NS_ENUM(NSUInteger, " ++ t.enumName ++ ") \x7b")] ++
    List.ofFn t.enumerator ++ [.flush "\x7d;"]

/-- The export of the array, whose size is left to its definition. -/
def arrayExport : Block :=
  [.blank, .flush ("FOUNDATION_EXPORT " ++ t.typeName ++ " *" ++ t.array ++ "[];")]

/-- The accessors of the constants. -/
def accessors : Block :=
  t.names.map fun name => .flush ("J2OBJC_ENUM_CONSTANT(" ++ t.typeName ++ ", " ++ name ++ ")")

/-- The definition of the array. -/
def arrayDefinition : Block :=
  [.blank, .flush (t.typeName ++ " *" ++ t.array ++ "[" ++ t.size ++ "];")]

/-- The definition of the method that gives all constants. -/
def values (returnText : String) : Block :=
  definitionLines ("+ (" ++ returnText ++ ")values")
    ["return [IOSObjectArray arrayWithObjects:" ++ t.array ++ " count:" ++ t.size ++ " type:" ++
      t.typeName ++ "_class_()];"]

/-- The definition of the method that finds a constant by its name. -/
def valueOf (returnText : String) : Block :=
  definitionLines ("+ (" ++ returnText ++ ")valueOfWithNSString:(NSString *)name")
    ["for (int i = 0; i < " ++ t.size ++ "; i++) \x7b",
     "  " ++ t.typeName ++ " *e = " ++ t.array ++ "[i];",
     "  if ([name isEqual:[e name]]) \x7b",
     "    return e;",
     "  \x7d",
     "\x7d",
     "@throw create_JavaLangIllegalArgumentException_initWithNSString_(name);"]

end ConstantTable

/-- Whether a member is an enum constant. -/
def Member.isEnumConstant : Member → Bool
  | .enumConstant _ => true
  | _ => false

/-- The constants of an enum and the array that is named after it. -/
def TypeDecl.constantTable (names : Naming) (d : TypeDecl) : ConstantTable where
  typeName := names.fullName d.type
  array := names.fullName d.type ++ "_values_"
  names := d.enumConstants

/-! ## What a file says of constants -/

/-- Whether an item is about the constants of an enum or their array. The
methods that go through the array are definitions like others. -/
def Item.isOnConstants : Item → Bool
  | .enumeration | .valuesExport | .constantAccessor _ | .valuesStorage => true
  | _ => false

/-- What a layout says of the constants and their array, in order. -/
def Layout.onConstants (l : Layout) : Layout := l.filter Item.isOnConstants

/-- The two files of an enum agree on its constants. -/
structure ConstantsAgree (c : Context) (d : TypeDecl) (t : ConstantTable)
    (header implementation : Layout) : Prop where
  /-- The table has the constants of the body in order, whatever stands
  between them. -/
  names : d.body.filter Member.isEnumConstant = t.names.map .enumConstant
  numbered : Layout.emit c d header.onConstants =
    .ok (t.enumeration ++ t.arrayExport ++ t.accessors)
  stored : Layout.emit c d implementation.onConstants = .ok t.arrayDefinition
  /-- The first two methods that are defined go through the array, -/
  methods : Layout.emit c d ((implementation.part .definition).take 2) =
    .ok (t.values (c.naming.typeText (.arrayOf d.type)) ++ t.valueOf (c.naming.typeText d.type))
  /-- and the others are those of the body. -/
  others : ∀ i ∈ (implementation.part .definition).drop 2,
    ∃ m, .method m ∈ d.body ∧ i = .definition m

/-! ## The constants of a body -/

variable {c : Context} {d : TypeDecl}

/-- Selecting the names of the constants selects the constants. -/
theorem TypeDecl.filter_isEnumConstant (d : TypeDecl) :
    d.body.filter Member.isEnumConstant = d.enumConstants.map .enumConstant := by
  refine Member.filter_eq_map_filterMap (fun x => ?_) d.body
  cases x <;> rfl

/-- Counting from zero gives every constant its position. -/
theorem Header.enumeration_eq (names : Naming) (d : TypeDecl) :
    enumeration names d = (d.constantTable names).enumeration := by
  have numbered : (d.enumConstants.zipIdx.map fun p =>
      Line.nested 1 (names.fullName d.type ++ "_Enum" ++ "_" ++ p.1 ++ " = " ++ toString p.2 ++
        ",")) = List.ofFn (d.constantTable names).enumerator := by
    refine List.ext_getElem (by simp [TypeDecl.constantTable]) fun i _ _ => ?_
    simp [ConstantTable.enumerator, ConstantTable.enumName, TypeDecl.constantTable]
  rw [ConstantTable.enumeration, ← numbered]
  rfl

/-! ## The parts of the layouts that are about constants -/

namespace Layout

theorem onConstants_append (a b : Layout) :
    onConstants (a ++ b) = onConstants a ++ onConstants b :=
  List.filter_append ..

theorem onConstants_cons (i : Item) (l : Layout) :
    onConstants (i :: l) = if i.isOnConstants then i :: onConstants l else onConstants l :=
  List.filter_cons

theorem onConstants_nil : onConstants [] = [] := rfl

theorem onConstants_headed (l : Layout) : onConstants (headed .blank l) = onConstants l := by
  cases l <;> rfl

/-- Constants are spoken of in fixed text only. -/
theorem onConstants_eq_nil {l : Layout} (h : l.part .frame = []) : onConstants l = [] := by
  refine List.filter_eq_nil_iff.mpr fun i hi about => ?_
  have frame : i.role = .frame := by
    cases i <;> first | rfl | cases about
  have mem : i ∈ l.part .frame := List.mem_filter.mpr ⟨hi, decide_eq_true frame⟩
  rw [h] at mem
  cases mem

theorem onConstants_map {α : Type} {i : α → Item} {s : Role} (h : ∀ x, (i x).role = s)
    (hs : s ≠ .frame) (l : List α) : onConstants (l.map i) = [] :=
  onConstants_eq_nil ((part_map h l).trans (if_neg hs))

end Layout

open Layout (part onConstants onConstants_append onConstants_cons onConstants_nil
  onConstants_headed onConstants_eq_nil onConstants_map)

theorem Header.onConstants_layout (c : Context) (hk : d.kind = .enumDecl) :
    onConstants (layout c d) =
      .enumeration :: .valuesExport :: d.enumConstants.map .constantAccessor := by
  have declarations : onConstants (declarationItems c d) = [] :=
    onConstants_eq_nil (part_declarationItems (by decide) (by decide))
  have accessors : onConstants (d.enumConstants.map .constantAccessor) =
      d.enumConstants.map .constantAccessor := by
    refine List.filter_eq_self.mpr fun i hi => ?_
    obtain ⟨name, -, rfl⟩ := List.mem_map.mp hi
    rfl
  have setters : onConstants (d.setterItems .nonPrivate c.options) = [] :=
    onConstants_eq_nil (Layout.part_setterItems ..)
  have statics : onConstants (d.staticVariables.flatMap staticItems) = [] :=
    onConstants_eq_nil (part_staticItems (by decide) (by decide) d)
  have functions : onConstants (d.body.flatMap functionItems) = [] := by
    rw [flatMap_functionItems]
    exact onConstants_map (s := .exportedPrototype) (fun _ => rfl) (by decide) _
  have trailer : onConstants (trailerItems c.options d) = [] := by
    simp [trailerItems, onConstants_append, onConstants_cons, onConstants_nil, onConstants_headed,
      setters, statics, functions, Item.isOnConstants]
  simp [layout, headItems, tailItems, valuesItems, hk, onConstants_append, onConstants_cons,
    onConstants_headed, declarations, accessors, trailer, Item.isOnConstants]

namespace Implementation

theorem onConstants_extensionItems : onConstants (extensionItems c d) = [] := by
  have hidden : onConstants (d.body.flatMap (hiddenItems c.options)) = [] :=
    onConstants_eq_nil (part_hiddenItems (by decide) c.options d.body)
  have setters : onConstants (d.setterItems .privateOnly c.options) = [] :=
    onConstants_eq_nil (Layout.part_setterItems ..)
  unfold extensionItems
  split
  · simp [onConstants_append, onConstants_cons, onConstants_headed, hidden, setters,
      Item.isOnConstants]
  · rfl

theorem onConstants_layout (c : Context) (hk : d.kind = .enumDecl) :
    onConstants (layout c d) = [.valuesStorage] := by
  have prototypes : onConstants (d.body.flatMap prototypeItems) = [] := by
    rw [flatMap_prototypeItems]
    exact onConstants_map (s := .privatePrototype) (fun _ => rfl) (by decide) _
  have storage : onConstants (d.storedVariables.map fun p => .storage p.1 p.2) = [] :=
    onConstants_map (s := .storage) (fun _ => rfl) (by decide) _
  have definitions : onConstants ((d.allMembers c.naming).flatMap definitionItems) = [] :=
    onConstants_eq_nil (part_definitionItems (by decide) (by decide) _)
  have functions : onConstants (d.body.flatMap functionItems) = [] := by
    rw [flatMap_functionItems]
    exact onConstants_map (s := .functionDefinition) (fun _ => rfl) (by decide) _
  have initializer : onConstants (if d.initializes then [.initializer] else []) = [] := by
    split <;> rfl
  rw [layout_of_ne (by simp [hk])]
  simp [headItems, storageItems, tailItems, hk, onConstants_append, onConstants_cons,
    onConstants_nil, onConstants_headed, onConstants_extensionItems, prototypes, storage,
    definitions, functions, initializer, Item.isOnConstants]

/-- The methods of an enum's kind are defined before those of its body. -/
theorem part_definition_enum (c : Context) (hk : d.kind = .enumDecl) :
    part .definition (layout c d) =
      .definition (d.valuesMethod c.naming) :: .definition (d.valueOfMethod c.naming) ::
        part .definition (d.body.flatMap definitionItems) := by
  have head : part .definition (headItems c d) = [] := by
    rw [headItems, Layout.part_append, Layout.part_append, Layout.part_append,
      part_extensionItems (by decide) (by decide), flatMap_prototypeItems,
      part_storageItems (by decide), Layout.part_map (s := .privatePrototype) fun _ => rfl]
    rfl
  have tail : part .definition (tailItems d) = [] := part_tailItems (by decide) d
  rw [layout_of_ne (by simp [hk]), Layout.part_append, Layout.part_append, head, tail,
    List.nil_append, List.append_nil, TypeDecl.allMembers, TypeDecl.supportMethods, if_pos hk]
  rfl

end Implementation

/-! ## The methods over the array -/

/-- What precedes the selector of a class method. -/
theorem Signature.head_of_static (names : Naming) {m : Method} {selector : String}
    (static : m.isStatic = true) (normal : m.isConstructor = false) (other : selector ≠ "hash") :
    head names m selector = "+ (" ++ names.typeText m.returnType ++ ")" := by
  simp [head, returnText, static, normal, other]

namespace TypeDecl

theorem signature_of_normal (names : Naming) {m : Method} (normal : m.isConstructor = false) :
    d.signature names m = Signature.method names m (names.selector m) := by
  simp [signature, Signature.normalMethod, normal]

theorem signature_valuesMethod (d : TypeDecl) :
    d.signature .prefixed (d.valuesMethod .prefixed) =
      .ok ("+ (" ++ Naming.prefixed.typeText (.arrayOf d.type) ++ ")values") := by
  have selector : Naming.prefixed.selector (d.valuesMethod .prefixed) = "values" := rfl
  have segments : Selector.segments "values" = ["values"] := by decide
  have head : Signature.head .prefixed (d.valuesMethod .prefixed) "values" =
      "+ (" ++ Naming.prefixed.typeText (.arrayOf d.type) ++ ")" :=
    Signature.head_of_static _ rfl rfl (by decide)
  have bare : (d.valuesMethod .prefixed).parameters.isEmpty = true := rfl
  have ended : endsIn ':' "values" = false := by decide
  rw [signature_of_normal _ rfl, selector, Signature.method, segments, if_pos bare,
    if_pos ⟨rfl, ended⟩, head]
  simp [String.append_assoc]

theorem signature_valueOfMethod (d : TypeDecl) :
    d.signature .prefixed (d.valueOfMethod .prefixed) =
      .ok ("+ (" ++ Naming.prefixed.typeText d.type ++ ")valueOfWithNSString:(NSString *)name") := by
  have selector : Naming.prefixed.selector (d.valueOfMethod .prefixed) = "valueOfWithNSString:" :=
    rfl
  have segments : Selector.segments "valueOfWithNSString:" = ["valueOfWithNSString"] := by decide
  have head : Signature.head .prefixed (d.valueOfMethod .prefixed) "valueOfWithNSString:" =
      "+ (" ++ Naming.prefixed.typeText d.type ++ ")" :=
    Signature.head_of_static _ rfl rfl (by decide)
  have name : Signature.part .prefixed "valueOfWithNSString" ⟨"name", .string⟩ =
      "valueOfWithNSString:(NSString *)name" := by decide
  have parameters : (d.valueOfMethod .prefixed).parameters = [⟨"name", .string⟩] := rfl
  rw [signature_of_normal _ rfl, selector, Signature.method, segments, parameters, head]
  simp [Signature.parts, name, String.append_assoc]

/-- Neither method is abstract, so each is defined with the body it has. -/
theorem emit_enumSupport (o : Options) (d : TypeDecl) :
    Layout.emit (SourceUnit.context o) d
        [.definition (d.valuesMethod .prefixed), .definition (d.valueOfMethod .prefixed)] =
      .ok ((d.constantTable .prefixed).values (Naming.prefixed.typeText (.arrayOf d.type)) ++
        (d.constantTable .prefixed).valueOf (Naming.prefixed.typeText d.type)) := by
  rw [Layout.emit_cons, Layout.emit_singleton, Item.emit_definition, Item.emit_definition,
    SourceUnit.context, signature_valuesMethod, signature_valueOfMethod]
  rfl

end TypeDecl

/-! ## The two files of an enum -/

theorem Header.emit_onConstants (c : Context) (hk : d.kind = .enumDecl) :
    Layout.emit c d (onConstants (layout c d)) =
      .ok ((d.constantTable c.naming).enumeration ++ (d.constantTable c.naming).arrayExport ++
        (d.constantTable c.naming).accessors) := by
  have accessors : Layout.emit c d (d.enumConstants.map .constantAccessor) =
      .ok (d.constantTable c.naming).accessors := Layout.emit_map_lines fun _ _ => rfl
  rw [onConstants_layout c hk, Layout.emit_cons, Layout.emit_cons, accessors, Item.emit, Item.emit,
    enumeration_eq, List.append_assoc]
  rfl

theorem Implementation.emit_onConstants (c : Context) (hk : d.kind = .enumDecl) :
    Layout.emit c d (onConstants (layout c d)) = .ok (d.constantTable c.naming).arrayDefinition := by
  rw [onConstants_layout c hk, Layout.emit_singleton]
  rfl

/-- The definitions of a body are those of its methods. -/
theorem Implementation.mem_part_definition {i : Item} {ms : List Member}
    (h : i ∈ Layout.part .definition (ms.flatMap definitionItems)) :
    ∃ m, .method m ∈ ms ∧ i = .definition m := by
  obtain ⟨hi, role⟩ := List.mem_filter.mp h
  obtain ⟨x, hx, hi⟩ := List.mem_flatMap.mp hi
  cases x with
  | method m => exact ⟨m, hx, List.mem_singleton.mp hi⟩
  | native n =>
    cases List.mem_singleton.mp hi
    cases of_decide_eq_true role
  | _ => cases hi

/-- The header and the implementation of an enum agree on its constants:
they number, list and count the same constants in the order of the body,
and they name one array, for every mix of members and all options. -/
theorem constantsAgree_of_enum (o : Options) (d : TypeDecl) (hk : d.kind = .enumDecl) :
    Header.ofType (SourceUnit.context o) d =
        Layout.emit (SourceUnit.context o) d (Header.layout (SourceUnit.context o) d) ∧
      Implementation.ofType (SourceUnit.context o) d =
        Layout.emit (SourceUnit.context o) d (Implementation.layout (SourceUnit.context o) d) ∧
      ConstantsAgree (SourceUnit.context o) d (d.constantTable .prefixed)
        (Header.layout (SourceUnit.context o) d) (Implementation.layout (SourceUnit.context o) d) := by
  refine ⟨Header.ofType_eq_emit _ d, Implementation.ofType_eq_emit _ d,
    { names := d.filter_isEnumConstant
      numbered := Header.emit_onConstants _ hk
      stored := Implementation.emit_onConstants _ hk
      methods := ?_
      others := fun i hi => ?_ }⟩
  · rw [Implementation.part_definition_enum _ hk]
    exact d.emit_enumSupport o
  · rw [Implementation.part_definition_enum _ hk] at hi
    exact Implementation.mem_part_definition hi

/-- An enum with a field and a private method between its constants. -/
def season : TypeDecl :=
  { kind := .enumDecl
    type := .ofClass "com.foo.Season"
    body :=
      [.enumConstant "WARM",
       .field { type := .primitive "int", vars := [⟨"days", {}⟩] },
       .enumConstant "COLD",
       .method
        { name := "turn", owner := .ofClass "com.foo.Season", modifiers := ⟨[.privateAccess]⟩ },
       .enumConstant "MILD"] }

/-- With private members hidden, the files of the enum agree on its three
constants. -/
theorem constantsAgree_season :
    season.kind = .enumDecl ∧
    (season.constantTable .prefixed).names = ["WARM", "COLD", "MILD"] ∧
    ConstantsAgree (SourceUnit.context { hidePrivate := true }) season
      (season.constantTable .prefixed)
      (Header.layout (SourceUnit.context { hidePrivate := true }) season)
      (Implementation.layout (SourceUnit.context { hidePrivate := true }) season) := by
  have hk : season.kind = .enumDecl := by decide
  exact ⟨hk, rfl, (constantsAgree_of_enum _ season hk).2.2⟩

end ObjcDecl
