import Mathlib.Data.List.Nodup
import ObjcDecl.Proofs.Layout
import ObjcDecl.Proofs.WellFormed

/-!
# The constructor of an annotation type

The class of an annotation type has an instance variable for each of its
members, and a constructor that takes them all. Four lists of members are
printed over the two files. Two keep the order of the body: the variables
that the header declares, and those that the implementation synthesizes.
The parameters of the constructor and the assignments in it are in the
order of the names, so that a call does not depend on the body.

The texts are given here by the list `ps` of the sorted members
(`InitialisedBy`); what sorted means is `SortedFrom`. If no two members
have one name, every variable is assigned once, from the parameter of its
own member (`AssignedOnce`), and members in another order are sorted to the
same list (`annotation_initialised`).
-/

namespace ObjcDecl

open Text

/-! ## Members in the order of their names -/

namespace AnnotationMember

/-- The members `ms` in the order of their names, which is that of code
points. Members of one name keep the order that they have. -/
structure SortedFrom (ms ps : List AnnotationMember) : Prop where
  perm : ps.Perm ms
  ordered : ps.Pairwise fun a b => a.name ≤ b.name
  stable : ∀ name, ps.filter (fun m => m.name = name) = ms.filter (fun m => m.name = name)

variable {ms ns ps : List AnnotationMember}

theorem name_le_trans (a b c : AnnotationMember) (ab : decide (a.name ≤ b.name) = true)
    (bc : decide (b.name ≤ c.name) = true) : decide (a.name ≤ c.name) = true :=
  decide_eq_true (String.le_trans (of_decide_eq_true ab) (of_decide_eq_true bc))

theorem name_le_total (a b : AnnotationMember) :
    (decide (a.name ≤ b.name) || decide (b.name ≤ a.name)) = true := by
  simpa using String.le_total a.name b.name

theorem sorted_sortedFrom (ms : List AnnotationMember) : SortedFrom ms (sorted ms) where
  perm := sorted_perm ms
  ordered := (List.pairwise_mergeSort name_le_trans name_le_total ms).imp of_decide_eq_true
  stable name := by
    -- the members of one name are in order as they stand, so sorting keeps them in a row
    have inOrder : (ms.filter fun m => m.name = name).Pairwise
        fun a b => decide (a.name ≤ b.name) = true := by
      refine List.pairwise_filter.mpr (List.pairwise_of_forall fun a b ha hb => ?_)
      rw [of_decide_eq_true ha, of_decide_eq_true hb]
      exact decide_eq_true (String.le_refl name)
    have kept := List.sublist_mergeSort name_le_trans name_le_total inOrder List.filter_sublist
    have selected := kept.filter fun m => m.name = name
    rw [List.filter_filter] at selected
    simp only [Bool.and_self] at selected
    exact (selected.eq_of_length ((sorted_perm ms).filter _).length_eq.symm).symm

/-- Members of distinct names have one order. -/
theorem sorted_eq_of_perm (perm : ns.Perm ms) (distinct : (ms.map name).Nodup) :
    sorted ns = sorted ms := by
  refine List.Perm.eq_of_pairwise ?_ (sorted_sortedFrom ns).ordered (sorted_sortedFrom ms).ordered
    ((sorted_perm ns).trans (perm.trans (sorted_perm ms).symm))
  intro a b ha hb ab ba
  exact List.inj_on_of_nodup_map distinct (perm.subset ((sorted_perm ns).subset ha))
    ((sorted_perm ms).subset hb) (String.le_antisymm ab ba)

/-! ## What is printed of a member -/

/-- The instance variable of a member. -/
def ivar (names : Naming) (m : AnnotationMember) : String := names.fieldName m.propertyName

/-- The parameter of a member. -/
def parameter (m : AnnotationMember) : String := m.propertyName ++ "__"

/-- The property of a member, in the protocol of the header. -/
def propertyLine (names : Naming) (m : AnnotationMember) : Line :=
  .flush ("@property (readonly) " ++
    typedName (names.specificTypeText m.type) m.propertyName ++ ";")

/-- The declaration of the variable, in the class of the header. -/
def ivarLine (names : Naming) (m : AnnotationMember) : Line :=
  .nested 1 (typedName (names.specificTypeText m.type) (m.ivar names) ++ ";")

/-- The synthesis of the variable, in the implementation. -/
def synthesisLine (names : Naming) (m : AnnotationMember) : Line :=
  .flush ("@synthesize " ++ m.propertyName ++ " = " ++ m.ivar names ++ ";")

/-- A variable and what is assigned to it. -/
def assignment (names : Naming) (m : AnnotationMember) : String × String :=
  (m.ivar names, m.parameter)

/-- The declaration of a constructor that takes members in the order
given. -/
def constructorText (names : Naming) (ps : List AnnotationMember) : String :=
  "- (instancetype)initWith" ++ " with".intercalate (ps.map fun m =>
    capitalize m.propertyName ++ ":(" ++ names.specificTypeText m.type ++ ")" ++ m.parameter)

/-- The body of a constructor with some assignments. -/
def constructorBody (assignments : List (String × String)) : List String :=
  ["if (self = [super init]) \x7b"] ++
    (assignments.map fun (target, source) => "  " ++ target ++ " = " ++ source ++ ";") ++
    ["\x7d", "return self;"]

theorem intercalate_cons (separator t : String) (ts : List String) :
    separator.intercalate (t :: ts) = t ++ String.join (ts.map (separator ++ ·)) := by
  induction ts generalizing t with
  | nil => simp
  | cons u us ih => simp [ih u, String.append_assoc]

theorem sorted_ne_nil (some : ms ≠ []) : sorted ms ≠ [] := by
  intro none
  have perm := sorted_perm ms
  rw [none] at perm
  exact some perm.nil_eq.symm

/-- The first segment follows `With` and every later one ` with`. -/
theorem annotationConstructor_eq (names : Naming) (some : ms ≠ []) :
    Signature.annotationConstructor names ms = constructorText names (sorted ms) := by
  unfold Signature.annotationConstructor constructorText
  cases h : sorted ms with
  | nil => exact absurd h (sorted_ne_nil some)
  | cons p ps =>
    have start : "- (" ++ Signature.instanceType ++ ")" ++ Selector.initHead ++ "With" =
      "- (instancetype)initWith" := rfl
    rw [← start, List.map_cons, intercalate_cons, List.map_map]
    simp only [Signature.memberParts, Signature.memberPart, Signature.memberParameter, parameter,
      String.append_assoc, Function.comp_def]

/-- Every variable is assigned once, from the parameter of its member, and
no two members have one variable or one parameter. -/
structure AssignedOnce (names : Naming) (ms ps : List AnnotationMember) : Prop where
  targets : (ms.map (ivar names)).Nodup
  parameters : (ps.map parameter).Nodup
  once : ∀ m ∈ ms, ((ps.map (assignment names)).filter fun a => a.1 = m.ivar names) =
    [(m.ivar names, m.parameter)]
  /-- Nothing else is assigned. -/
  only : ∀ a ∈ ps.map (assignment names), a.1 ∈ ms.map (ivar names)

/-- Among elements without a value in common, those with the value of one
element are this element. -/
theorem filter_eq_singleton {α β : Type} [DecidableEq α] [DecidableEq β] {f : α → β}
    {l : List α} (distinct : (l.map f).Nodup) {x : α} (hx : x ∈ l) :
    (l.filter fun y => f y = f x) = [x] := by
  have own : (l.filter fun y => f y = f x) = l.filter (· == x) := by
    refine List.filter_congr fun y hy => decide_eq_decide.mpr ⟨fun same => ?_, congrArg f⟩
    exact List.inj_on_of_nodup_map distinct hy hx same
  rw [own, List.filter_beq, List.count_eq_one_of_mem (.of_map f distinct) hx]
  rfl

/-- It is enough that the members have distinct names, since fields of
distinct names are distinct. -/
theorem assignedOnce {names : Naming} (fields : Function.Injective names.fieldName)
    (perm : ps.Perm ms) (distinct : (ms.map name).Nodup) : AssignedOnce names ms ps := by
  have targets : (ms.map (ivar names)).Nodup := by
    have ivars := distinct.map fields
    rwa [List.map_map] at ivars
  have assigned : (ps.map (ivar names)).Nodup := (perm.map _).nodup_iff.mpr targets
  refine ⟨targets, ?_, fun m hm => ?_, fun a ha => ?_⟩
  · have suffixed : Function.Injective fun s : String => s ++ "__" :=
      fun s t h => (String.append_left_inj _).mp h
    have parameters := ((perm.map name).nodup_iff.mpr distinct).map suffixed
    rwa [List.map_map] at parameters
  · have own := filter_eq_singleton assigned (perm.mem_iff.mpr hm)
    rw [List.filter_map]
    exact congrArg (List.map (assignment names)) own
  · obtain ⟨p, hp, rfl⟩ := List.mem_map.mp ha
    exact List.mem_map_of_mem (perm.subset hp)

end AnnotationMember

open AnnotationMember

/-- Whether a member is one of an annotation type. -/
def Member.isAnnotationMember : Member → Bool
  | .annotationMember _ => true
  | _ => false

/-- The two files of an annotation type declare and define a constructor
that takes the members in the order `ps` and assigns them to the variables
of the type. -/
structure InitialisedBy (c : Context) (d : TypeDecl) (ps : List AnnotationMember) : Prop where
  /-- The members are those of the body, whatever stands between them. -/
  members : d.body.filter Member.isAnnotationMember = d.annotationMembers.map .annotationMember
  header : ∃ trailer, Header.trailer c d false = .ok trailer ∧
    Header.ofType c d = .ok (.blank :: commentLines c.detect d.doc ++
      [.flush ("@protocol " ++ c.naming.fullName d.type ++ " < JavaLangAnnotationAnnotation >"),
       .blank] ++
      d.annotationMembers.map (propertyLine c.naming) ++ endLines ++
      [.blank, .flush ("@interface " ++ c.naming.fullName d.type ++ " : NSObject < " ++
        c.naming.fullName d.type ++ " > \x7b"), .flush " @public"] ++
      d.annotationMembers.map (ivarLine c.naming) ++
      [.flush "\x7d", .blank, .flush (constructorText c.naming ps ++ ";")] ++ endLines ++ trailer)
  implementation : Implementation.ofType c d =
    .ok ([.blank, .flush ("@implementation " ++ c.naming.fullName d.type), .blank] ++
      d.annotationMembers.map (synthesisLine c.naming) ++
      definitionLines (constructorText c.naming ps)
        (constructorBody (ps.map (assignment c.naming))) ++
      definitionLines "- (IOSClass *)annotationType"
        ["return " ++ c.naming.fullName d.type ++ "_class_();"] ++ endLines ++
      [.blank, .flush ("J2OBJC_INTERFACE_TYPE_LITERAL_SOURCE(" ++ c.naming.fullName d.type ++ ")")])

variable {d : TypeDecl}

/-! ## The two files -/

theorem headed_map {α : Type} (heading : Line) (line : α → Line) {l : List α}
    (some : l ≠ []) : TypeDecl.headed heading (l.map line) = heading :: l.map line := by
  cases l with
  | nil => exact absurd rfl some
  | cons x l => rfl

namespace Header

theorem memberProperty_eq (names : Naming) : memberProperty names = propertyLine names := by
  funext m
  rw [memberProperty, declarator_eq, propertyLine]

theorem memberVariable_eq (names : Naming) : memberVariable names = ivarLine names := by
  funext m
  rw [memberVariable, declarator_eq, ivarLine, ivar]

theorem protocolLine_eq (name : String) :
    "@protocol " ++ name ++ " < " ++ annotationProtocol ++ " >" =
      "@protocol " ++ name ++ " < JavaLangAnnotationAnnotation >" := by
  rw [String.append_assoc, String.append_assoc]
  rfl

theorem classLine_eq (name : String) :
    "@interface " ++ name ++ " : " ++ rootClass ++ " < " ++ name ++ " > \x7b" =
      "@interface " ++ name ++ " : NSObject < " ++ name ++ " > \x7b" := by
  have root : " : " ++ (rootClass ++ " < ") = " : NSObject < " := rfl
  rw [← root]
  simp only [String.append_assoc]

theorem memberConstructor_eq (names : Naming) {ms : List AnnotationMember}
    (some : ms ≠ []) :
    memberConstructor names ms = [.blank, .flush (constructorText names (sorted ms) ++ ";")] := by
  rw [← annotationConstructor_eq names some]
  cases ms with
  | nil => exact absurd rfl some
  | cons m ms => rfl

end Header

theorem Implementation.memberConstructor_eq (names : Naming) {ms : List AnnotationMember}
    (some : ms ≠ []) :
    memberConstructor names ms = definitionLines (constructorText names (sorted ms))
      (AnnotationMember.constructorBody ((sorted ms).map (assignment names))) := by
  have body : memberConstructorBody names ms =
      AnnotationMember.constructorBody ((sorted ms).map (assignment names)) := by
    rw [AnnotationMember.constructorBody, List.map_map]
    rfl
  rw [← annotationConstructor_eq names some, ← body]
  cases ms with
  | nil => exact absurd rfl some
  | cons m ms => rfl

/-- The constructor takes the members as they are sorted. -/
theorem initialisedBy_sorted (o : Options) (hk : d.kind = .annotationDecl)
    (some : d.annotationMembers ≠ []) :
    InitialisedBy (SourceUnit.context o) d (sorted d.annotationMembers) where
  members := by
    refine Member.filter_eq_map_filterMap (fun x => ?_) d.body
    cases x <;> rfl
  header := by
    obtain ⟨trailer, htrailer⟩ := Header.exists_trailer o (d := d) false
    refine ⟨trailer, htrailer, ?_⟩
    rw [Header.ofType, TypeHooks.visit, hk]
    simp only [Header.typeHooks, Header.annotationDecl, htrailer, headed_map _ _ some,
      Header.memberConstructor_eq _ some, Header.memberProperty_eq, Header.memberVariable_eq,
      Header.protocolLine_eq, Header.classLine_eq, DocComment.block_eq]
    simp only [Emission.ok_bind, List.append_assoc, List.cons_append, List.nil_append]
    rfl
  implementation := by
    rw [Implementation.ofType, TypeHooks.visit, hk]
    simp only [Implementation.typeHooks, Implementation.annotationDecl, headed_map _ _ some,
      Implementation.memberConstructor_eq _ some]
    rfl

/-- An annotation type with members has a constructor, declared in the
header as it is defined in the implementation, with a parameter for each
member in the order of the names. If the names are distinct, it assigns
every variable of the type once, from the parameter of its own member, and
it is the same for members that stand in another order in the body. -/
theorem annotation_initialised (o : Options) (d : TypeDecl) (hk : d.kind = .annotationDecl)
    (some : d.annotationMembers ≠ []) :
    ∃ ps, SortedFrom d.annotationMembers ps ∧ InitialisedBy (SourceUnit.context o) d ps ∧
      ((d.annotationMembers.map (·.name)).Nodup →
        AssignedOnce Naming.prefixed d.annotationMembers ps ∧
        ∀ body, body.Perm d.body →
          InitialisedBy (SourceUnit.context o) { d with body := body } ps) := by
  have fields : Function.Injective Naming.prefixed.fieldName :=
    fun s t h => (String.append_left_inj _).mp h
  refine ⟨sorted d.annotationMembers, sorted_sortedFrom _, initialisedBy_sorted o hk some,
    fun distinct => ⟨assignedOnce fields (sorted_perm _) distinct, fun body perm => ?_⟩⟩
  let other : TypeDecl := { d with body := body }
  have members : other.annotationMembers.Perm d.annotationMembers := perm.filterMap _
  rw [← sorted_eq_of_perm members distinct]
  refine initialisedBy_sorted (d := other) o hk fun none => some ?_
  rw [none] at members
  exact members.nil_eq.symm

/-- An annotation type with members out of order, among members of another
kind. The capital letter comes first, the letter beyond ASCII last. -/
def rangeMark : TypeDecl :=
  { kind := .annotationDecl
    type := .named .interfaceType "Range"
    body := [
      .annotationMember ⟨"übertrag", .primitive "boolean"⟩,
      .annotationMember ⟨"id", .string⟩,
      .initializer true,
      .annotationMember ⟨"Max", .primitive "int"⟩] }

theorem annotation_initialised_rangeMark :
    rangeMark.kind = .annotationDecl ∧ rangeMark.annotationMembers ≠ [] ∧
    ∃ ps, SortedFrom rangeMark.annotationMembers ps ∧
      InitialisedBy (SourceUnit.context {}) rangeMark ps ∧
      AssignedOnce Naming.prefixed rangeMark.annotationMembers ps ∧
      InitialisedBy (SourceUnit.context {})
        { rangeMark with body := rangeMark.body.reverse } ps := by
  have some : rangeMark.annotationMembers ≠ [] := by decide
  obtain ⟨ps, order, files, independent⟩ := annotation_initialised {} rangeMark rfl some
  obtain ⟨once, reordered⟩ := independent (by decide)
  exact ⟨rfl, some, ps, order, files, once, reordered _ (List.reverse_perm _)⟩

end ObjcDecl
