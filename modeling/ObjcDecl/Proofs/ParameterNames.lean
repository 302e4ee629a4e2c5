import Mathlib.Data.List.Nodup
import ObjcDecl.Proofs.DeclaredSelector

/-!
# Names of parameters

A parameter is printed under its own name, or with an underscore after it
where the name is reserved. No reserved word ends in an underscore, so no
parameter is printed under a reserved word. But a name may end in one: two
parameters of different names are printed alike if one is called by a
reserved word and the other by that word with an underscore, and in no other
case (`keptApart_iff`).
-/

namespace ObjcDecl

open Text

/-! ## What is printed of parameters -/

namespace Signature

/-- Segments beside types and names, each row but the first after a line
break and spaces. -/
inductive Spelled : (segments types identifiers : List String) → String → Prop
  | last (s t x : String) : Spelled [s] [t] [x] (s ++ ":(" ++ t ++ ")" ++ x)
  | next (s t x : String) (spaces : Nat) {ss ts xs : List String} {u : String}
      (rest : Spelled ss ts xs u) :
      Spelled (s :: ss) (t :: ts) (x :: xs)
        (s ++ ":(" ++ t ++ ")" ++ x ++ "\n" ++ pad spaces ++ u)

variable {names : Naming}

theorem Rows.spelled {ss : List String} {ps : List Parameter} {u : String}
    (h : Rows names ss ps u) :
    Spelled ss (ps.map fun p => names.specificTypeText p.type)
      (ps.map fun p => names.variableName p.name) u := by
  induction h with
  | last s p => exact .last s _ _
  | next s p spaces rest ih => exact .next s _ _ spaces ih

/-- A declaration has every parameter beside its segment. -/
theorem spelled_of_method {m : Method} {selector t : String} (some : m.parameters ≠ [])
    (h : method names m selector = .ok t) :
    ∃ u, t = head names m selector ++ u ∧
      Spelled (Selector.segments selector)
        (m.parameters.map fun p => names.specificTypeText p.type)
        (m.parameters.map fun p => names.variableName p.name) u := by
  obtain ⟨p, ps, params⟩ := List.exists_cons_of_ne_nil some
  simp only [method, params, List.isEmpty_cons, Bool.false_eq_true, if_false] at h
  split at h
  · next count =>
    cases segments : Selector.segments selector with
    | nil =>
      rw [segments] at count
      cases count
    | cons s ss =>
      rw [segments] at h count
      cases h
      rw [params]
      exact ⟨_, rfl, (rows_continuations names _ s p (Nat.succ.inj count)).spelled⟩
  · cases h

theorem function_eq (names : Naming) (f : Function) :
    function names f = declarator (names.typeText f.returnType) f.name ++ "(" ++
      ", ".intercalate (List.zipWith declarator
        (f.parameters.map fun p => names.specificTypeText p.type)
        (f.parameters.map fun p => names.variableName p.name)) ++ ")" := by
  rw [function, List.zipWith_map, List.zipWith_self]
  rfl

end Signature

namespace Naming.Prefixed

/-- The names under which parameters are printed. -/
def identifiers (ps : List Parameter) : List String := ps.map fun p => variableName p.name

/-- The declarations of methods and functions print their parameters under
the given names. -/
structure PrintedAs (ps : List Parameter) (identifiers : List String) : Prop where
  method : ∀ (m : Method) (selector t : String), m.parameters = ps → ps ≠ [] →
    Signature.method .prefixed m selector = .ok t →
      ∃ u, t = Signature.head .prefixed m selector ++ u ∧
        Signature.Spelled (Selector.segments selector)
          (ps.map fun p => specificTypeText p.type) identifiers u
  function : ∀ f : Function, f.parameters = ps →
    Signature.function .prefixed f = declarator (typeText f.returnType) f.name ++ "(" ++
      ", ".intercalate (List.zipWith declarator (ps.map fun p => specificTypeText p.type)
        identifiers) ++ ")"

theorem printedAs_identifiers (ps : List Parameter) : PrintedAs ps (identifiers ps) where
  method := by
    rintro m selector t rfl some h
    exact Signature.spelled_of_method some h
  function := by
    rintro f rfl
    exact Signature.function_eq .prefixed f

/-! ## Reserved words -/

theorem not_endsIn_of_mem_reservedWords : ∀ w ∈ reservedWords, endsIn '_' w = false := by decide

/-- A name with an underscore after it is not reserved. -/
theorem isReserved_append (name : String) : isReserved (name ++ "_") = false := by
  have last : endsIn '_' (name ++ "_") = true := by simp [endsIn]
  rw [isReserved, ← Bool.not_eq_true, List.contains_iff_mem]
  intro reserved
  rw [not_endsIn_of_mem_reservedWords _ reserved] at last
  cases last

/-- No name is printed as a reserved word. -/
theorem isReserved_variableName (name : String) : isReserved (variableName name) = false := by
  unfold variableName
  split
  · exact isReserved_append name
  · next free => exact Bool.eq_false_iff.mpr free

theorem variableName_of_reserved {name : String} (h : isReserved name = true) :
    variableName name = name ++ "_" := if_pos h

theorem variableName_append (name : String) : variableName (name ++ "_") = name ++ "_" :=
  if_neg (Bool.eq_false_iff.mp (isReserved_append name))

/-- Two names are printed alike only if the one is what the other, a
reserved word, is printed as. -/
theorem variableName_eq_iff {x y : String} :
    variableName x = variableName y ↔
      x = y ∨ (isReserved x = true ∧ y = x ++ "_") ∨ (isReserved y = true ∧ x = y ++ "_") := by
  constructor
  · intro same
    unfold variableName at same
    split at same
    · next hx =>
      split at same
      · exact .inl ((String.append_left_inj "_").mp same)
      · exact .inr (.inl ⟨hx, same.symm⟩)
    · split at same
      · next hy => exact .inr (.inr ⟨hy, same⟩)
      · exact .inl same
  · rintro (rfl | ⟨hx, rfl⟩ | ⟨hy, rfl⟩)
    · rfl
    · rw [variableName_of_reserved hx, variableName_append]
    · rw [variableName_of_reserved hy, variableName_append]

/-- A reserved word names a parameter, and so does what it is printed as. -/
def RenamedOnto (ps : List Parameter) : Prop :=
  ∃ w, isReserved w = true ∧ w ∈ ps.map Parameter.name ∧ w ++ "_" ∈ ps.map Parameter.name

/-- Parameters of different names are printed under different names, and
none under a reserved word. -/
structure KeptApart (ps : List Parameter) : Prop where
  distinct : (ps.map Parameter.name).Nodup → (identifiers ps).Nodup
  unreserved : ∀ x ∈ identifiers ps, isReserved x = false

theorem nodup_identifiers_iff {ps : List Parameter} (distinct : (ps.map Parameter.name).Nodup) :
    (identifiers ps).Nodup ↔ ¬ RenamedOnto ps := by
  have renamed : identifiers ps = (ps.map Parameter.name).map variableName := by
    rw [List.map_map]
    rfl
  rw [renamed, List.nodup_map_iff_inj_on distinct]
  constructor
  · rintro inj ⟨w, reserved, hw, hw'⟩
    have same := inj w hw (w ++ "_") hw' (variableName_eq_iff.mpr (.inr (.inl ⟨reserved, rfl⟩)))
    have unreserved := isReserved_append w
    rw [← same, reserved] at unreserved
    cases unreserved
  · intro apart x hx y hy same
    rcases variableName_eq_iff.mp same with same | ⟨reserved, rfl⟩ | ⟨reserved, rfl⟩
    · exact same
    · exact absurd ⟨x, reserved, hx, hy⟩ apart
    · exact absurd ⟨y, reserved, hy, hx⟩ apart

/-- Declarations print their parameters under names that are not reserved.
They keep parameters of different names apart unless a reserved word is
renamed to the name of another parameter. -/
theorem keptApart_iff (ps : List Parameter) :
    PrintedAs ps (identifiers ps) ∧
      (∀ x ∈ identifiers ps, isReserved x = false) ∧
      (KeptApart ps ↔ ((ps.map Parameter.name).Nodup → ¬ RenamedOnto ps)) := by
  have unreserved : ∀ x ∈ identifiers ps, isReserved x = false := by
    intro x hx
    obtain ⟨p, -, rfl⟩ := List.mem_map.mp hx
    exact isReserved_variableName p.name
  refine ⟨printedAs_identifiers ps, unreserved, ?_, ?_⟩
  · intro kept distinct
    exact (nodup_identifiers_iff distinct).mp (kept.distinct distinct)
  · intro apart
    exact ⟨fun distinct => (nodup_identifiers_iff distinct).mpr (apart distinct), unreserved⟩

/-- A number and a second one, both called after what they stand for. -/
def idParameters : List Parameter := [⟨"id", .primitive "int"⟩, ⟨"id_", .primitive "int"⟩]

/-- A method with these parameters. -/
def tag : Method :=
  { name := "tag", owner := .ofClass "Node", parameters := idParameters }

/-- A function with these parameters. -/
def tagFunction : Function :=
  { name := "Node_tag", returnType := .void, parameters := idParameters }

/-- `id` is printed under the name of `id_`, in methods and functions. -/
theorem not_keptApart_idParameters :
    (idParameters.map Parameter.name).Nodup ∧ ¬ KeptApart idParameters ∧
      Signature.normalMethod .prefixed tag =
        .ok "- (void)tagWithInt:(int)id_\n           withInt:(int)id_" ∧
      Signature.function .prefixed tagFunction = "void Node_tag(int id_, int id_)" := by
  have distinct : (idParameters.map Parameter.name).Nodup := by decide
  refine ⟨distinct, fun kept => ?_, rfl, rfl⟩
  exact absurd (kept.distinct distinct) (by decide)

end Naming.Prefixed

end ObjcDecl
