import Mathlib.Data.List.Forall2
import Mathlib.Data.List.Nodup
import ObjcDecl.Emit.Fields
import ObjcDecl.Proofs.Presentation
import ObjcDecl.Tree.Write

/-!
# What a tree promises, and what reading keeps of it

Three things are promised of a tree: a field statement declares a variable,
modifiers are a set, and the variables of a static field statement are
known to be static. The functions that build trees keep the promises. A
tree that is read keeps those that its document keeps, no more and no less
(`SourceUnit.sound_iff`): nothing is refused for breaking them, and nothing
is put right.
-/

namespace ObjcDecl

open Json Format

/-! ## Promises of trees -/

/-- A field statement that declares a variable. If it is static, all its
variables are. -/
structure Field.Sound (f : Field) : Prop where
  inhabited : f.vars ≠ []
  mirrored : f.isStatic = true → ∀ v ∈ f.vars, v.binding.isStatic = true

/-- The modifiers of a member. -/
def Member.modifiers : Member → Modifiers
  | .method m => m.modifiers
  | .field f => f.modifiers
  | .function f => f.modifiers
  | _ => {}

/-- A member that keeps its promises. -/
structure Member.Sound (m : Member) : Prop where
  set : m.modifiers.toList.Nodup
  field : ∀ f, m = .field f → f.Sound

/-- A type declaration that keeps its promises. -/
structure TypeDecl.Sound (d : TypeDecl) : Prop where
  set : d.modifiers.toList.Nodup
  members : ∀ m ∈ d.body, m.Sound

/-- A source unit that keeps its promises. -/
def SourceUnit.Sound (u : SourceUnit) : Prop := ∀ d ∈ u.types, d.Sound

theorem Field.sound_ofVariables {t : TypeRef} {vs : List Variable} {f : Field}
    (h : Field.ofVariables t vs = .ok f) : f.Sound := by
  cases vs with
  | nil => cases h
  | cons v vs =>
    cases h
    exact ⟨nofun, nofun⟩

theorem Field.Sound.modifier {f : Field} (h : f.Sound) (x : Modifier) : (f.modifier x).Sound := by
  by_cases static : x = .staticMember
  · subst static
    refine ⟨?_, fun _ v hv => ?_⟩
    · simpa [Field.modifier] using h.inhabited
    · simp only [Field.modifier, if_true, List.mem_map] at hv
      obtain ⟨_, _, rfl⟩ := hv
      rfl
  · have vars : (f.modifier x).vars = f.vars := if_neg static
    have same : (f.modifier x).isStatic = f.isStatic := by
      have other : Modifier.staticMember ≠ x := fun same => static same.symm
      rw [Bool.eq_iff_iff]
      simp [Field.modifier, Field.isStatic, Modifiers.isStatic, Modifiers.contains,
        Modifiers.mem_toList_insert, other]
    exact ⟨vars ▸ h.inhabited, fun isStatic => vars ▸ h.mirrored (same ▸ isStatic)⟩

/-- Where the promises are kept, every variable of a static statement has
storage, unless it is a primitive constant. -/
theorem TypeDecl.Sound.mem_storedVariables {d : TypeDecl} (h : d.Sound) {f : Field} {v : Variable}
    (hf : .field f ∈ d.body) (static : f.isStatic = true) (hv : v ∈ f.vars)
    (storage : v.binding.isPrimitiveConstant = false) : (f, v) ∈ d.storedVariables := by
  have marked : v.binding.isStatic = true := ((h.members _ hf).field f rfl).mirrored static v hv
  have statement : f ∈ d.fields := List.mem_filterMap.mpr ⟨.field f, hf, rfl⟩
  have declared : (f, v) ∈ d.vars :=
    List.mem_flatMap.mpr ⟨f, statement, List.mem_map_of_mem hv⟩
  exact List.mem_filter.mpr ⟨declared, by simp [marked, storage]⟩

/-- A variable of a static statement that is not known to be static is in
neither file: it is no static variable, and its statement declares no
instance variables. -/
theorem TypeDecl.lost_of_unmarked {d : TypeDecl} {f : Field} {v : Variable}
    (static : f.isStatic = true) (unmarked : v.binding.isStatic = false) :
    (f, v) ∉ d.staticVariables ∧ ∀ visible options, f ∉ d.instanceFields visible options := by
  constructor
  · intro hv
    simpa [unmarked] using (List.mem_filter.mp hv).2
  · intro visible options hf
    simpa [Field.isInstanceFieldOf, static] using (List.mem_filter.mp hf).2

end ObjcDecl

/-! ## Promises of documents -/

namespace ObjcDecl.Format

open Json

/-- The members of a struct, in either of its forms. -/
def Struct.members (s : Struct) : Json → List (Option String × Json)
  | .object ms => ms
  | .array js => membersInOrder s.names js
  | _ => []

/-- What is given for a member of a struct. -/
def Struct.given (s : Struct) (name : String) (j : Json) : List Json :=
  if name ∈ s.names then valuesOf name (s.members j) else []

/-- The items of a list, if one is given. -/
def itemsOf : List Json → List Json
  | [.array js] => js
  | _ => []

/-- The name of an alternative, alone or with what it carries. -/
def nameOf : Json → Option String
  | .string s => some s
  | .object [(k, _)] => k
  | _ => none

/-- The names of the modifiers of a struct. -/
def Struct.modifierNames (s : Struct) (j : Json) : List String :=
  (itemsOf (s.given "modifiers" j)).filterMap nameOf

/-- Whether a variable is said to be static. -/
def IsStaticVariable (j : Json) : Prop :=
  ∃ b, Struct.var.given "binding" j = [b] ∧ Struct.binding.given "is_static" b = [.bool true]

/-- A field statement that keeps its promises. -/
structure SoundField (j : Json) : Prop where
  inhabited : itemsOf (Struct.field.given "fragments" j) ≠ []
  mirrored : "static" ∈ Struct.field.modifierNames j →
    ∀ v ∈ itemsOf (Struct.field.given "fragments" j), IsStaticVariable v

/-- The struct of a member of a body, and the value without its kind. -/
def bodyPart : Json → Option (Struct × Json)
  | .object ms =>
    match valuesOf "kind" ms with
    | [.string kind] => (bodyKinds.lookup kind).map fun s => (s, .object (others "kind" ms))
    | _ => none
  | .array (.string kind :: js) => (bodyKinds.lookup kind).map fun s => (s, .array js)
  | _ => none

/-- A member of a body that keeps its promises. -/
structure SoundMember (j : Json) : Prop where
  set : ∀ s part, bodyPart j = some (s, part) → (s.modifierNames part).Nodup
  field : ∀ part, bodyPart j = some (.field, part) → SoundField part

/-- A type declaration that keeps its promises. -/
structure SoundType (j : Json) : Prop where
  set : (Struct.typeDecl.modifierNames j).Nodup
  members : ∀ m ∈ itemsOf (Struct.typeDecl.given "body" j), SoundMember m

/-- A document that keeps its promises. -/
def SoundUnit (j : Json) : Prop :=
  ∀ d ∈ itemsOf (Struct.sourceUnit.given "types" j), SoundType d

end ObjcDecl.Format

/-! ## Reading keeps what is promised -/

namespace ObjcDecl

open Json Format Emission

variable {α : Type}

/-- In either form of a record, every field takes what is given for it. -/
theorem exists_gives_of_read {rec : Record α} {s : Struct} {j : Json} {x : α}
    (names : s.names = rec.fields.names) (skips : rec.refusesUnknown = false)
    (read : rec.read j = .ok x) :
    ∃ xs, rec.fields.Gives (s.members j) xs ∧ rec.build xs = x := by
  obtain ⟨xs, read, built⟩ := map_eq_ok.mp read
  have distinct : rec.fields.names.Nodup := names ▸ s.names_nodup
  rw [skips] at read
  refine ⟨xs, ?_, built⟩
  cases j with
  | object ms => exact ((Fields.read_object_eq_ok distinct).mp read).2
  | array js =>
    rw [Struct.members, names]
    exact ((readInOrder_eq_ok distinct js).mp read).2
  | _ => cases read

/-- A list that may be left out has the items that are given. -/
theorem forall₂_of_takes {name : String} {r : Reader α} {default? : Option (List α)}
    {js : List Json} {xs : List α} (takes : FieldSpec.Takes ⟨name, readList r, default?⟩ js xs)
    (empty : ∀ d, default? = some d → d = []) :
    List.Forall₂ (fun j x => r j = .ok x) (itemsOf js) xs := by
  have items (js : List Json) (xs : List α) (read : readItems r js = .ok xs) :
      List.Forall₂ (fun j x => r j = .ok x) js xs := by
    induction js generalizing xs with
    | nil =>
      cases read
      exact .nil
    | cons j js ih =>
      obtain ⟨x, first, read⟩ := bind_eq_ok.mp read
      obtain ⟨ys, others, same⟩ := bind_eq_ok.mp read
      cases same
      exact .cons first (ih ys others)
  cases takes with
  | missing default =>
    rw [empty xs default]
    exact .nil
  | @given j _ read =>
    cases j with
    | array js => exact items js xs read
    | _ => cases read

theorem forall_iff_of_forall₂ {β : Type} {R : α → β → Prop} {p : α → Prop} {q : β → Prop}
    {xs : List α} {ys : List β} (related : List.Forall₂ R xs ys)
    (same : ∀ x y, R x y → (p x ↔ q y)) : (∀ x ∈ xs, p x) ↔ ∀ y ∈ ys, q y := by
  induction related with
  | nil => simp
  | cons first _ ih => rw [List.forall_mem_cons, List.forall_mem_cons, same _ _ first, ih]

/-! ### Modifiers -/

theorem Modifier.name_injective : Function.Injective Modifier.name := by
  intro a b same
  cases a <;> cases b <;> first | rfl | exact absurd same (by decide)

theorem eq_of_plain_read {buffered : Bool} {j : Json} {x y : α}
    (read : (Alternative.plain x).read buffered j = .ok y) : x = y := by
  unfold Alternative.read at read
  split at read
  · next same =>
    cases same
    exact Except.ok.inj read
  · next same =>
    cases same
    split at read
    · exact Except.ok.inj read
    · cases read
  · cases read
  · next same => cases same

/-- A modifier is read from its name. -/
theorem nameOf_of_readModifier {buffered : Bool} {j : Json} {m : Modifier}
    (read : readModifier buffered j = .ok m) : nameOf j = some m.name := by
  have names : ∀ p ∈ Modifier.names, p.1 = p.2.name := by decide
  have found {k : String} {a : Alternative Modifier}
      (found : (Modifier.names.map fun p => (p.1, Alternative.plain p.2)).lookup k = some a) :
      ∃ m, a = .plain m ∧ k = m.name := by
    obtain ⟨p, hp, same⟩ := List.mem_map.mp (mem_of_lookup found)
    cases same
    exact ⟨_, rfl, names p hp⟩
  cases j with
  | string k =>
    simp only [readModifier, readChoice] at read
    split at read
    · next m' lookup =>
      obtain ⟨_, same, name⟩ := found lookup
      cases same
      cases read
      exact congrArg some name
    · cases read
    · cases read
  | object ms =>
    obtain ⟨k, i, a, rfl, lookup, value⟩ := readChoice_object_eq_ok.mp read
    obtain ⟨m', rfl, rfl⟩ := found lookup
    rw [eq_of_plain_read value]
    rfl
  | _ => cases read

/-- Modifiers are read from their names, repeated ones included. -/
theorem modifierNames_of_takes {s : Struct} {buffered : Bool} {j : Json} {ms : Modifiers}
    (known : "modifiers" ∈ s.names)
    (takes : FieldSpec.Takes ⟨"modifiers", readModifiers buffered, some {}⟩
      (valuesOf "modifiers" (s.members j)) ms) :
    s.modifierNames j = ms.toList.map Modifier.name := by
  have list : FieldSpec.Takes ⟨"modifiers", readList (readModifier buffered), some []⟩
      (valuesOf "modifiers" (s.members j)) ms.toList := by
    generalize valuesOf "modifiers" (s.members j) = js at takes
    cases takes with
    | given read =>
      obtain ⟨_, items, rfl⟩ := map_eq_ok.mp read
      exact .given items
    | missing default =>
      cases default
      exact .missing rfl
  rw [Struct.modifierNames, Struct.given, if_pos known]
  have related := forall₂_of_takes list fun _ same => (Option.some.inj same).symm
  generalize itemsOf _ = js at related
  generalize ms.toList = xs at related
  induction related with
  | nil => rfl
  | cons first _ ih => rw [List.filterMap_cons, nameOf_of_readModifier first, ih, List.map_cons]

theorem nodup_names_iff {ms : Modifiers} :
    (ms.toList.map Modifier.name).Nodup ↔ ms.toList.Nodup :=
  List.nodup_map_iff Modifier.name_injective

theorem static_mem_names_iff (ms : Modifiers) :
    "static" ∈ ms.toList.map Modifier.name ↔ ms.isStatic = true := by
  rw [show "static" = Modifier.staticMember.name from rfl,
    List.mem_map_of_injective Modifier.name_injective]
  simp [Modifiers.isStatic, Modifiers.contains]

/-! ### Variables and field statements -/

theorem given_of_mem {s : Struct} {name : String} (known : name ∈ s.names) (j : Json) :
    s.given name j = valuesOf name (s.members j) := if_pos known

/-- A truth value that may be left out is true if that is given. -/
theorem truth_of_takes {name : String} {js : List Json} {b : Bool}
    (takes : FieldSpec.Takes ⟨name, readBool, some false⟩ js b) : js = [.bool true] ↔ b = true := by
  cases takes with
  | missing default => cases default; simp
  | @given j _ read =>
    cases j with
    | bool b' => cases read; simp
    | _ => cases read

theorem isStatic_iff_of_read {j : Json} {v : Variable} (read : variableRecord.read j = .ok v) :
    IsStaticVariable j ↔ v.binding.isStatic = true := by
  obtain ⟨⟨name, binding, ⟨⟩⟩, ⟨-, takes, -⟩, rfl⟩ :=
    exists_gives_of_read (s := .var) rfl rfl read
  rw [IsStaticVariable, given_of_mem (by decide)]
  change FieldSpec.Takes _ (valuesOf "binding" (Struct.var.members j)) binding at takes
  generalize valuesOf "binding" (Struct.var.members j) = js at takes
  cases takes with
  | missing default => cases default; simp [variableRecord]
  | @given b _ read =>
    obtain ⟨⟨isStatic, isWeak, isPrimitive, ⟨⟩⟩, ⟨takes, -⟩, rfl⟩ :=
      exists_gives_of_read (s := .binding) rfl rfl read
    rw [← given_of_mem (s := .binding) (by decide)] at takes
    simpa [variableRecord, bindingRecord] using truth_of_takes takes

variable {buffered : Bool} {j : Json}

theorem modifierNames_field {f : Field} (read : (fieldRecord buffered).read j = .ok f) :
    Struct.field.modifierNames j = f.modifiers.toList.map Modifier.name := by
  obtain ⟨⟨modifiers, _⟩, ⟨takes, -⟩, rfl⟩ := exists_gives_of_read (s := .field) rfl rfl read
  exact modifierNames_of_takes (by decide) takes

theorem sound_iff_of_readField {f : Field} (read : (fieldRecord buffered).read j = .ok f) :
    SoundField j ↔ f.Sound := by
  have static := static_mem_names_iff f.modifiers
  rw [← modifierNames_field read] at static
  obtain ⟨⟨modifiers, type, vars, _⟩, ⟨-, -, takes, -⟩, rfl⟩ :=
    exists_gives_of_read (s := .field) rfl rfl read
  have related := forall₂_of_takes takes nofun
  have inhabited : itemsOf (Struct.field.given "fragments" j) ≠ [] ↔ vars ≠ [] := by
    rw [given_of_mem (by decide), ne_eq, ne_eq, ← List.length_eq_zero_iff, related.length_eq,
      List.length_eq_zero_iff]
  have mirrored := forall_iff_of_forall₂ related fun _ _ => isStatic_iff_of_read
  rw [← given_of_mem (s := .field) (by decide)] at mirrored
  constructor
  · exact fun h => ⟨inhabited.mp h.inhabited, fun own => mirrored.mp (h.mirrored (static.mpr own))⟩
  · exact fun h => ⟨inhabited.mpr h.inhabited, fun own => mirrored.mpr (h.mirrored (static.mp own))⟩

/-! ### Members, types and units -/

theorem modifierNames_method {m : Method} (read : (methodRecord buffered).read j = .ok m) :
    Struct.method.modifierNames j = m.modifiers.toList.map Modifier.name := by
  obtain ⟨⟨_, _, modifiers, _⟩, ⟨-, -, takes, -⟩, rfl⟩ :=
    exists_gives_of_read (s := .method) rfl rfl read
  exact modifierNames_of_takes (by decide) takes

theorem modifierNames_function {f : Function} (read : (functionRecord buffered).read j = .ok f) :
    Struct.function.modifierNames j = f.modifiers.toList.map Modifier.name := by
  obtain ⟨⟨_, _, _, modifiers, _⟩, ⟨-, -, -, takes, -⟩, rfl⟩ :=
    exists_gives_of_read (s := .function) rfl rfl read
  exact modifierNames_of_takes (by decide) takes

/-- The reader for a member's kind reads the part without the kind. -/
theorem bodyPart_of_read {m : Member} (read : readMember j = .ok m) :
    ∃ kind r part, memberReaders.lookup kind = some r ∧
      bodyPart j = (bodyKinds.lookup kind).map (fun s => (s, part)) ∧ r part = .ok m := by
  cases j with
  | object ms =>
    obtain ⟨kind, r, values, found, -, read⟩ := readMember_object_eq_ok.mp read
    exact ⟨kind, r, _, found, by rw [bodyPart, values], read⟩
  | array js =>
    obtain ⟨kind, r, js, rfl, found, -, read⟩ := readMember_array_eq_ok.mp read
    exact ⟨kind, r, _, found, rfl, read⟩
  | _ => cases read

theorem sound_iff_of_bodyPart {s : Struct} {part : Json} {m : Member}
    (found : bodyPart j = some (s, part))
    (names : s.modifierNames part = m.modifiers.toList.map Modifier.name)
    (field : (s = .field → SoundField part) ↔ ∀ f, m = .field f → f.Sound) :
    SoundMember j ↔ m.Sound := by
  constructor
  · intro h
    refine ⟨nodup_names_iff.mp (names ▸ h.set s part found), field.mp fun own => ?_⟩
    exact h.field part (own ▸ found)
  · intro h
    refine ⟨fun s' part' found' => ?_, fun part' found' => ?_⟩
    · cases found.symm.trans found'
      exact names ▸ nodup_names_iff.mpr h.set
    · cases found.symm.trans found'
      exact field.mpr h.field rfl

/-- Of other members than field statements only the modifiers matter. -/
theorem sound_iff_of_otherPart {s : Struct} {part : Json} {m : Member}
    (found : bodyPart j = some (s, part)) (other : s ≠ .field) (member : ∀ f, m ≠ .field f)
    (names : s.modifierNames part = m.modifiers.toList.map Modifier.name) :
    SoundMember j ↔ m.Sound :=
  sound_iff_of_bodyPart found names
    ⟨fun _ f same => absurd same (member f), fun _ own => absurd own other⟩

theorem sound_iff_of_readMember {m : Member} (read : readMember j = .ok m) :
    SoundMember j ↔ m.Sound := by
  obtain ⟨kind, r, part, found, value, read⟩ := bodyPart_of_read read
  have reader := mem_of_lookup found
  simp only [memberReaders, List.mem_cons, List.not_mem_nil, or_false, Prod.mk.injEq] at reader
  rcases reader with method | field | function | native | initializer | constant | member
  case inl =>
    obtain ⟨rfl, rfl⟩ := method
    obtain ⟨x, inner, rfl⟩ := map_eq_ok.mp read
    exact sound_iff_of_otherPart value (by decide) (by simp) (modifierNames_method inner)
  case inr.inl =>
    obtain ⟨rfl, rfl⟩ := field
    obtain ⟨x, inner, rfl⟩ := map_eq_ok.mp read
    have sound := sound_iff_of_readField inner
    refine sound_iff_of_bodyPart value (modifierNames_field inner) ⟨?_, ?_⟩
    · rintro h _ ⟨⟩
      exact sound.mp (h rfl)
    · exact fun h _ => sound.mpr (h x rfl)
  case inr.inr.inl =>
    obtain ⟨rfl, rfl⟩ := function
    obtain ⟨x, inner, rfl⟩ := map_eq_ok.mp read
    exact sound_iff_of_otherPart value (by decide) (by simp) (modifierNames_function inner)
  -- the others have no modifiers
  case inr.inr.inr.inl =>
    obtain ⟨rfl, rfl⟩ := native
    obtain ⟨x, inner, rfl⟩ := map_eq_ok.mp read
    exact sound_iff_of_otherPart value (by decide) (by simp) rfl
  case inr.inr.inr.inr.inl =>
    obtain ⟨rfl, rfl⟩ := initializer
    obtain ⟨⟨isStatic, _⟩, inner, rfl⟩ := map_eq_ok.mp read
    exact sound_iff_of_otherPart value (by decide) (by simp [initializerRecord]) rfl
  case inr.inr.inr.inr.inr.inl =>
    obtain ⟨rfl, rfl⟩ := constant
    obtain ⟨⟨name, _⟩, inner, rfl⟩ := map_eq_ok.mp read
    exact sound_iff_of_otherPart value (by decide) (by simp [enumConstantRecord]) rfl
  case inr.inr.inr.inr.inr.inr =>
    obtain ⟨rfl, rfl⟩ := member
    obtain ⟨x, inner, rfl⟩ := map_eq_ok.mp read
    exact sound_iff_of_otherPart value (by decide) (by simp) rfl

theorem sound_iff_of_readTypeDecl {d : TypeDecl} (read : typeDeclRecord.read j = .ok d) :
    SoundType j ↔ d.Sound := by
  obtain ⟨⟨_, _, _, _, modifiers, _, body, _⟩, ⟨-, -, -, -, set, -, members, -⟩, rfl⟩ :=
    exists_gives_of_read (s := .typeDecl) rfl rfl read
  have names := modifierNames_of_takes (s := .typeDecl) (by decide) set
  have related := forall₂_of_takes members fun _ same => (Option.some.inj same).symm
  have members := forall_iff_of_forall₂ related fun _ _ => sound_iff_of_readMember
  rw [← given_of_mem (s := .typeDecl) (by decide)] at members
  constructor
  · exact fun h => ⟨nodup_names_iff.mp (names ▸ h.set), members.mp h.members⟩
  · exact fun h => ⟨names ▸ nodup_names_iff.mpr h.set, members.mpr h.members⟩

/-- A unit keeps its promises exactly when its document does. -/
theorem SourceUnit.sound_iff {s : String} {u : SourceUnit} (decoded : SourceUnit.ofText s = .ok u) :
    u.Sound ↔ SoundUnit (Json.ofText s).value := by
  obtain ⟨⟨_, types, _⟩, ⟨-, takes, -⟩, rfl⟩ :=
    exists_gives_of_read (s := .sourceUnit) rfl rfl (SourceUnit.read_of_ofText decoded)
  have types := forall_iff_of_forall₂ (forall₂_of_takes takes nofun)
    fun _ _ => sound_iff_of_readTypeDecl
  rw [← given_of_mem (s := .sourceUnit) (by decide)] at types
  exact types.symm

/-- A field statement with some modifiers and variables. -/
def fieldJson (modifiers : List String) (vars : List Json) : Json :=
  .ofMembers [("kind", .string "field"), ("modifiers", stringsJson modifiers),
    ("ty", .ofMembers [("name", .string "A"), ("kind", .string "class")]),
    ("fragments", .array vars)]

/-- A static variable that is known to be static. -/
def keptDocument : Json :=
  classDocument [fieldJson ["static"] [.ofMembers [("name", .string "a"),
    ("binding", .ofMembers [("is_static", .bool true)])]]]

/-- The field statement of that variable. -/
def keptField : Field where
  modifiers := ⟨[.staticMember]⟩
  type := .ofClass "A"
  vars := [{ name := "a", binding := { isStatic := true } }]

theorem keptField_sound : keptField.Sound := ⟨nofun, fun _ => by simp [keptField]⟩

theorem sound_keptDocument :
    SourceUnit.ofText (render keptDocument) = .ok ⟨"a/A.java",
        [{ TypeDecl.ofClass "A" with body := [.field keptField] }]⟩ ∧
      SoundUnit (Json.ofText (render keptDocument)).value := by
  have decoded : SourceUnit.ofText (render keptDocument) = .ok ⟨"a/A.java",
      [{ TypeDecl.ofClass "A" with body := [.field keptField] }]⟩ := by
    rw [SourceUnit.ofText, readText, ofText_render (by decide)]
    rfl
  have member : Member.Sound (.field keptField) :=
    ⟨by decide, fun f same => Member.field.inj same ▸ keptField_sound⟩
  have declaration : TypeDecl.Sound { TypeDecl.ofClass "A" with body := [.field keptField] } :=
    ⟨List.nodup_nil, List.forall_mem_singleton.mpr member⟩
  exact ⟨decoded, (SourceUnit.sound_iff decoded).mp (List.forall_mem_singleton.mpr declaration)⟩

/-- A field statement without variables, and one that is static twice and
has a variable that is not known to be static. -/
def brokenDocument : Json :=
  classDocument [fieldJson [] [],
    fieldJson ["static", "static"] [.ofMembers [("name", .string "b")]]]

/-- The declaration in that document. -/
def brokenDecl : TypeDecl :=
  { TypeDecl.ofClass "A" with
    body := [
      .field { type := .ofClass "A", vars := [] },
      .field {
        modifiers := ⟨[.staticMember, .staticMember]⟩
        type := .ofClass "A"
        vars := [{ name := "b" }] }] }

/-- Reading keeps none of the promises: all three are broken, and the
static statement has no storage in either file. -/
theorem not_sound_brokenDocument :
    SourceUnit.ofText (render brokenDocument) = .ok ⟨"a/A.java", [brokenDecl]⟩ ∧
      (∃ f ∈ brokenDecl.fields, f.vars = []) ∧
      (∃ f ∈ brokenDecl.fields, ¬ f.modifiers.toList.Nodup) ∧
      (∃ f ∈ brokenDecl.fields, f.isStatic = true ∧ ∃ v ∈ f.vars, v.binding.isStatic = false) ∧
      brokenDecl.storedVariables = [] ∧
      ¬ SourceUnit.Sound ⟨"a/A.java", [brokenDecl]⟩ := by
  refine ⟨?decoded, ?empty, ?repeated, ?unmarked, rfl, ?broken⟩
  case decoded =>
    rw [SourceUnit.ofText, readText, ofText_render (by decide)]
    rfl
  case empty => exact ⟨_, List.mem_cons_self, rfl⟩
  case repeated => exact ⟨_, List.mem_cons_of_mem _ List.mem_cons_self, by decide⟩
  case unmarked =>
    exact ⟨_, List.mem_cons_of_mem _ List.mem_cons_self, rfl, _, List.mem_cons_self, rfl⟩
  case broken =>
    intro sound
    have decl := sound brokenDecl List.mem_cons_self
    have member := decl.members _ List.mem_cons_self
    exact (member.field _ rfl).inhabited rfl

end ObjcDecl
