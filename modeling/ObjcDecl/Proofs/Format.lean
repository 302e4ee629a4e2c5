import Mathlib.Logic.Relation
import ObjcDecl.Proofs.JsonText

/-!
# The format of documents

What the documents of source units are made of, and the ways in which one
document presents what another one says. The tables name the members of
every struct, with the shapes of their values and the defaults that stand
for members left out. They are written down apart from the readers, which
are held against them in `ObjcDecl.Proofs.Presentation`.

A struct is an object of named members, or an array of their values in the
order of the table. What may change in its presentation, in one place at a
time, is said by `Change`:

- the order of an object's members;
- members of unknown names, which say nothing;
- members at their defaults, which may be written out or left out;
- whether it is an object or an array.
-/

namespace ObjcDecl.Format

open Json

/-! ## Tables -/

/-- The structs of documents. -/
inductive Struct where
  | sourceUnit
  | typeDecl
  | typeRef
  | annotationUse
  | doc
  | docTag
  | method
  | parameter
  | field
  | var
  | binding
  | function
  | native
  | initializer
  | enumConstant
  | annotationMember
deriving DecidableEq, Repr

/-- The choices of documents. -/
inductive Choice where
  /-- A name alone, such as a modifier. -/
  | name
  | typeKind
  | docFragment
deriving DecidableEq, Repr

/-- What is known of the form of a value. -/
inductive Shape where
  /-- There is no struct in the value. -/
  | plain
  | list (item : Shape)
  | struct (s : Struct)
  /-- An alternative by its name, or an object of the name and what the
  alternative carries. -/
  | choice (c : Choice)
  /-- A member of a body: a struct with one more member, which names its
  kind and stands first in an array. -/
  | bodyMember
deriving DecidableEq, Repr

/-- A member of a struct. Without a default it has to be given. -/
structure Entry where
  name : String
  shape : Shape
  default? : Option Json

namespace Entry

/-- A member that has to be given. -/
def required (name : String) (shape : Shape) : Entry := ⟨name, shape, none⟩

/-- A member that may be absent. Its shape is that of a value that is
present. -/
def optional (name : String) (shape : Shape) : Entry := ⟨name, shape, some .null⟩

/-- A list, empty if it is left out. -/
def repeated (name : String) (item : Shape) : Entry := ⟨name, .list item, some (.array [])⟩

/-- A truth value, false if it is left out. -/
def flag (name : String) : Entry := ⟨name, .plain, some (.bool false)⟩

end Entry

/-- The members of a struct, in order. -/
def Struct.entries : Struct → List Entry
  | .sourceUnit =>
    [.required "source_path" .plain, .required "types" (.list (.struct .typeDecl))]
  | .typeDecl =>
    [.required "kind" (.choice .name), .required "ty" (.struct .typeRef),
     .optional "superclass" (.struct .typeRef), .repeated "interfaces" (.struct .typeRef),
     .repeated "modifiers" (.choice .name), .optional "javadoc" (.struct .doc),
     .repeated "body" .bodyMember, .repeated "class_init_statements" .plain]
  | .typeRef => [.required "name" .plain, .required "kind" (.choice .typeKind)]
  | .annotationUse => [.required "type_name" .plain]
  | .doc => [.required "tags" (.list (.struct .docTag))]
  | .docTag => [.optional "name" .plain, .repeated "fragments" (.choice .docFragment)]
  | .method =>
    [.required "name" .plain, .required "declaring_type" (.struct .typeRef),
     .repeated "modifiers" (.choice .name), .flag "is_constructor",
     .required "return_type" (.struct .typeRef), .repeated "parameters" (.struct .parameter),
     .repeated "annotations" (.struct .annotationUse), .optional "javadoc" (.struct .doc),
     .optional "selector" .plain, .repeated "body" .plain]
  | .parameter => [.required "name" .plain, .required "ty" (.struct .typeRef)]
  | .field =>
    [.repeated "modifiers" (.choice .name), .required "ty" (.struct .typeRef),
     .required "fragments" (.list (.struct .var)), .optional "javadoc" (.struct .doc)]
  | .var => [.required "name" .plain, ⟨"binding", .struct .binding, some (.object [])⟩]
  | .binding => [.flag "is_static", .flag "is_weak", .flag "is_primitive_constant"]
  | .function =>
    [.required "name" .plain, .required "return_type" (.struct .typeRef),
     .repeated "parameters" (.struct .parameter), .repeated "modifiers" (.choice .name),
     .repeated "body" .plain]
  | .native => [.optional "header_code" .plain, .optional "implementation_code" .plain]
  | .initializer => [.required "is_static" .plain]
  | .enumConstant => [.required "name" .plain]
  | .annotationMember => [.required "name" .plain, .required "ty" (.struct .typeRef)]

/-- The names of a struct's members. -/
def Struct.names (s : Struct) : List String := s.entries.map Entry.name

/-- The values that alternatives carry. -/
def Choice.carried : Choice → List (String × Shape)
  | .name => []
  | .typeKind => [("array", .struct .typeRef)]
  | .docFragment => [("text", .plain), ("tag", .struct .docTag), ("reference", .plain)]

/-- The members of bodies, by the names of their kinds. -/
def bodyKinds : List (String × Struct) :=
  [("method", .method), ("field", .field), ("function", .function), ("native", .native),
   ("initializer", .initializer), ("enum_constant", .enumConstant),
   ("annotation_member", .annotationMember)]

/-- The shape of the value of a struct's member. Of a member that is
unknown, nothing is known. -/
def Struct.memberShape (s : Struct) (name : Option String) : Shape :=
  ((s.entries.find? fun e => some e.name = name).map Entry.shape).getD .plain

/-- The shape of the value at a position of a struct in the form of an
array. -/
def Struct.itemShape (s : Struct) (i : Nat) : Shape :=
  (s.entries[i]?.map Entry.shape).getD .plain

/-- The shape of the value that an alternative carries. -/
def Choice.shape (c : Choice) (name : String) : Shape := (c.carried.lookup name).getD .plain

/-- Values as members of the first of some names. -/
def membersInOrder (names : List String) (js : List Json) : List (Option String × Json) :=
  List.zipWith (fun name j => (some name, j)) names js

theorem of_mem_membersInOrder {names : List String} {js : List Json} {m : Option String × Json}
    (h : m ∈ membersInOrder names js) : ∃ name ∈ names, ∃ j ∈ js, m = (some name, j) := by
  obtain ⟨i, bound, rfl⟩ := List.getElem_of_mem h
  simp only [membersInOrder, List.getElem_zipWith]
  exact ⟨_, List.getElem_mem _, _, List.getElem_mem _, rfl⟩

theorem exists_mem_membersInOrder {names : List String} {js : List Json} {j : Json} (h : j ∈ js)
    (fits : js.length ≤ names.length) : ∃ name, (some name, j) ∈ membersInOrder names js := by
  obtain ⟨i, bound, rfl⟩ := List.getElem_of_mem h
  have here : i < (membersInOrder names js).length := by
    rw [membersInOrder, List.length_zipWith]
    omega
  refine ⟨names[i], List.mem_iff_getElem.mpr ⟨i, here, ?_⟩⟩
  simp only [membersInOrder, List.getElem_zipWith]

theorem Struct.names_nodup (s : Struct) : s.names.Nodup := by
  cases s <;> decide

theorem memberShape_eq {s : Struct} {e : Entry} (known : e ∈ s.entries) :
    s.memberShape (some e.name) = e.shape := by
  have found {es : List Entry} (distinct : (es.map Entry.name).Nodup) (known : e ∈ es) :
      es.find? (fun e' => some e'.name = some e.name) = some e := by
    induction es with
    | nil => cases known
    | cons e' es ih =>
      obtain ⟨fresh, distinct⟩ := List.nodup_cons.mp distinct
      rcases List.mem_cons.mp known with rfl | known
      · exact List.find?_cons_of_pos (by simp)
      · have other : e'.name ≠ e.name := fun same => fresh (same ▸ List.mem_map_of_mem known)
        rw [List.find?_cons_of_neg (by simpa using other), ih distinct known]
  rw [Struct.memberShape, found s.names_nodup known]
  rfl

/-! ## Changes -/

/-- A change in the presentation of a value, in one place. -/
inductive Change : Shape → Json → Json → Prop
  /-- The members of an object, in another order. -/
  | reordered {shape : Shape} {ms ms' : List (Option String × Json)} (h : ms.Perm ms') :
    Change shape (.object ms) (.object ms')
  | plainMember {k : Option String} {j j' : Json} {ms : List (Option String × Json)}
    (h : Change .plain j j') :
    Change .plain (.object ((k, j) :: ms)) (.object ((k, j') :: ms))
  | plainItem {j j' : Json} {before after : List Json} (h : Change .plain j j') :
    Change .plain (.array (before ++ j :: after)) (.array (before ++ j' :: after))
  | listItem {item : Shape} {j j' : Json} {before after : List Json} (h : Change item j j') :
    Change (.list item) (.array (before ++ j :: after)) (.array (before ++ j' :: after))
  /-- In the value that an alternative carries. -/
  | carried {c : Choice} {name : String} {j j' : Json} (h : Change (c.shape name) j j') :
    Change (.choice c) (.object [(some name, j)]) (.object [(some name, j')])
  /-- In the value of a member, which is found at any place of an object by
  a change of the order. -/
  | member {s : Struct} {k : Option String} {j j' : Json} {ms : List (Option String × Json)}
    (h : Change (s.memberShape k) j j') :
    Change (.struct s) (.object ((k, j) :: ms)) (.object ((k, j') :: ms))
  | position {s : Struct} {j j' : Json} {before after : List Json}
    (h : Change (s.itemShape before.length) j j') :
    Change (.struct s) (.array (before ++ j :: after)) (.array (before ++ j' :: after))
  /-- A member of an unknown name is added, with any value but a number. -/
  | added {s : Struct} {name : String} {j : Json} {ms : List (Option String × Json)}
    (unknown : name ∉ s.names) (plain : j.isPlain = true) :
    Change (.struct s) (.object ms) (.object ((some name, j) :: ms))
  /-- A member of an unknown name is left out. -/
  | removed {s : Struct} {name : String} {j : Json} {ms : List (Option String × Json)}
    (unknown : name ∉ s.names) :
    Change (.struct s) (.object ((some name, j) :: ms)) (.object ms)
  /-- A member that is not given is written out at its default, whose own
  members may be written out next. -/
  | written {s : Struct} {e : Entry} {j : Json} {ms : List (Option String × Json)}
    (known : e ∈ s.entries) (default : e.default? = some j)
    (missing : some e.name ∉ ms.map (·.1)) :
    Change (.struct s) (.object ms) (.object ((some e.name, j) :: ms))
  /-- A member at its default is left out. -/
  | left {s : Struct} {e : Entry} {j : Json} {ms : List (Option String × Json)}
    (known : e ∈ s.entries) (default : e.default? = some j) :
    Change (.struct s) (.object ((some e.name, j) :: ms)) (.object ms)
  /-- An object becomes an array. -/
  | positioned {s : Struct} {js : List Json} (fits : js.length ≤ s.entries.length) :
    Change (.struct s) (.object (membersInOrder s.names js)) (.array js)
  /-- An array becomes an object. -/
  | named {s : Struct} {js : List Json} :
    Change (.struct s) (.array js) (.object (membersInOrder s.names js))
  /-- In a member of a body, whose kind may stand anywhere by a change of
  the order. No second kind may be added. -/
  | body {kind : String} {s : Struct} {ms ms' : List (Option String × Json)}
    (known : bodyKinds.lookup kind = some s) (single : some "kind" ∉ ms'.map (·.1))
    (h : Change (.struct s) (.object ms) (.object ms')) :
    Change .bodyMember (.object ((some "kind", .string kind) :: ms))
      (.object ((some "kind", .string kind) :: ms'))
  | bodyItems {kind : String} {s : Struct} {js js' : List Json}
    (known : bodyKinds.lookup kind = some s)
    (h : Change (.struct s) (.array js) (.array js')) :
    Change .bodyMember (.array (.string kind :: js)) (.array (.string kind :: js'))

/-- Two presentations of one value. -/
def Presents (shape : Shape) : Json → Json → Prop := Relation.ReflTransGen (Change shape)

/-! ## What a change leaves -/

/-- A property that a value has if all its parts have it. Names of members
may have to have a property too. -/
structure Pervasive (p : Json → Prop) (q : Option String → Prop) : Prop where
  array (js : List Json) : p (.array js) ↔ ∀ j ∈ js, p j
  object (ms : List (Option String × Json)) : p (.object ms) ↔ ∀ m ∈ ms, q m.1 ∧ p m.2
  null : p .null
  bool (b : Bool) : p (.bool b)
  string (s : String) : p (.string s)
  name (k : String) : q (some k)

theorem itemsIntact_iff (js : List Json) : itemsIntact js = true ↔ ∀ j ∈ js, j.isIntact = true := by
  induction js with
  | nil => simp [itemsIntact]
  | cons j js ih => simp [itemsIntact, ih]

theorem membersIntact_iff (ms : List (Option String × Json)) :
    membersIntact ms = true ↔ ∀ m ∈ ms, m.2.isIntact = true := by
  induction ms with
  | nil => simp [membersIntact]
  | cons m ms ih => simp only [membersIntact, Bool.and_eq_true, ih, List.forall_mem_cons]

theorem itemsReadable_iff (js : List Json) :
    itemsReadable js = true ↔ ∀ j ∈ js, j.isReadable = true := by
  induction js with
  | nil => simp [itemsReadable]
  | cons j js ih => simp [itemsReadable, ih]

theorem membersReadable_iff (ms : List (Option String × Json)) :
    membersReadable ms = true ↔ ∀ m ∈ ms, m.1.isSome = true ∧ m.2.isReadable = true := by
  induction ms with
  | nil => simp [membersReadable]
  | cons m ms ih => simp only [membersReadable, Bool.and_eq_true, ih, List.forall_mem_cons]

theorem pervasive_intact : Pervasive (·.isIntact = true) fun _ => True where
  array js := by rw [isIntact, itemsIntact_iff]
  object ms := by simp only [isIntact, membersIntact_iff, true_and]
  null := rfl
  bool _ := rfl
  string _ := rfl
  name _ := trivial

theorem pervasive_readable : Pervasive (·.isReadable = true) (·.isSome = true) where
  array js := by rw [isReadable, itemsReadable_iff]
  object ms := by rw [isReadable, membersReadable_iff]
  null := rfl
  bool _ := rfl
  string _ := rfl
  name _ := rfl

mutual

theorem Pervasive.plain {p : Json → Prop} {q : Option String → Prop} (h : Pervasive p q) :
    ∀ {j : Json}, j.isPlain = true → p j
  | .null, _ => h.null
  | .bool b, _ => h.bool b
  | .string s, _ => h.string s
  | .array js, plain => (h.array js).mpr (h.plain_items plain)
  | .object ms, plain => (h.object ms).mpr (h.plain_members plain)

theorem Pervasive.plain_items {p : Json → Prop} {q : Option String → Prop} (h : Pervasive p q) :
    ∀ {js : List Json}, itemsPlain js = true → ∀ j ∈ js, p j
  | [], _ => nofun
  | _ :: _, plain => by
    simp only [itemsPlain, Bool.and_eq_true] at plain
    exact List.forall_mem_cons.mpr ⟨h.plain plain.1, h.plain_items plain.2⟩

theorem Pervasive.plain_members {p : Json → Prop} {q : Option String → Prop}
    (h : Pervasive p q) : ∀ {ms : List (Option String × Json)}, membersPlain ms = true →
      ∀ m ∈ ms, q m.1 ∧ p m.2
  | [], _ => nofun
  | (some k, _) :: _, plain => by
    simp only [membersPlain, Bool.and_eq_true] at plain
    exact List.forall_mem_cons.mpr ⟨⟨h.name k, h.plain plain.1.2⟩, h.plain_members plain.2⟩

end

theorem default_isPlain {s : Struct} {e : Entry} {j : Json} (known : e ∈ s.entries)
    (default : e.default? = some j) : j.isPlain = true := by
  have all : ∀ s : Struct, s.entries.all (fun e => e.default?.all isPlain) = true := by
    intro s
    cases s <;> rfl
  have plain := List.all_eq_true.mp (all s) e known
  rwa [default] at plain

/-- A change brings in only plain values, so what holds of all parts before
holds of all parts afterwards. -/
theorem Pervasive.change {p : Json → Prop} {q : Option String → Prop} (h : Pervasive p q)
    {shape : Shape} {j j' : Json} (change : Change shape j j') : p j → p j' := by
  have items {before after : List Json} {j j' : Json} (ih : p j → p j') :
      p (.array (before ++ j :: after)) → p (.array (before ++ j' :: after)) := by
    simp only [h.array, List.forall_mem_append, List.forall_mem_cons]
    exact fun ⟨first, here, rest⟩ => ⟨first, ih here, rest⟩
  have members {k : Option String} {ms : List (Option String × Json)} {j j' : Json}
      (ih : p j → p j') : p (.object ((k, j) :: ms)) → p (.object ((k, j') :: ms)) := by
    simp only [h.object, List.forall_mem_cons]
    exact fun ⟨⟨name, here⟩, rest⟩ => ⟨⟨name, ih here⟩, rest⟩
  have taken {k : String} {ms : List (Option String × Json)} {j : Json} (hj : p j) :
      p (.object ((some k, j) :: ms)) ↔ p (.object ms) := by
    simp [h.object, h.name, hj]
  induction change with
  | reordered perm =>
    rw [h.object, h.object]
    exact fun all m hm => all m (perm.symm.subset hm)
  | plainMember _ ih | carried _ ih | member _ ih => exact members ih
  | plainItem _ ih | listItem _ ih | position _ ih => exact items ih
  | added _ plain => exact (taken (h.plain plain)).mpr
  | written known default _ => exact (taken (h.plain (default_isPlain known default))).mpr
  | removed _ | left _ _ =>
    simp only [h.object, List.forall_mem_cons]
    exact And.right
  | @positioned s js fits =>
    rw [h.array, h.object]
    intro all j hj
    have fits : js.length ≤ s.names.length := by rwa [Struct.names, List.length_map]
    obtain ⟨name, hm⟩ := exists_mem_membersInOrder hj fits
    exact (all _ hm).2
  | named =>
    rw [h.array, h.object]
    intro all m hm
    obtain ⟨name, -, j, hj, rfl⟩ := of_mem_membersInOrder hm
    exact ⟨h.name name, all j hj⟩
  | body _ _ _ ih =>
    rw [taken (h.plain rfl), taken (h.plain rfl)]
    exact ih
  | bodyItems _ _ ih =>
    simp only [h.array, List.forall_mem_cons] at ih ⊢
    exact fun ⟨kind, rest⟩ => ⟨kind, ih rest⟩

end ObjcDecl.Format
