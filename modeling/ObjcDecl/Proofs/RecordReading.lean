import ObjcDecl.Proofs.Emission
import ObjcDecl.Tree.Read

/-!
# What a record is read from

Records are read member by member, in the order of the document, into the
slots of their fields. What comes of it does not depend on that order: a
field takes the value of the only member of its name, or its default if
there is none, and all other members only have to be intact
(`Fields.read_object_eq_ok`). A record in the form of an array is read in
the order of the fields.

A member of a body is read like a record with one field, the kind, which
decides what the other members are read as (`readMember_object_eq_ok`).
-/

namespace ObjcDecl

namespace Json

open Emission

variable {α : Type} {ts : List Type}

/-! ## Members of a name -/

/-- The values of the members of a name, in order. -/
def valuesOf (name : String) (ms : List (Option String × Json)) : List Json :=
  (ms.filter fun m => m.1 = some name).map (·.2)

/-- The members that do not have a name, in order. -/
def others (name : String) (ms : List (Option String × Json)) : List (Option String × Json) :=
  ms.filter fun m => m.1 ≠ some name

@[simp] theorem valuesOf_nil (name : String) : valuesOf name [] = [] := rfl

section Names

variable {k name : String} (j : Json) (ms : List (Option String × Json))

@[simp] theorem valuesOf_cons_self :
    valuesOf name ((some name, j) :: ms) = j :: valuesOf name ms := by
  simp [valuesOf]

@[simp] theorem others_cons_self : others name ((some name, j) :: ms) = others name ms := by
  simp [others]

theorem valuesOf_cons_of_ne {m : Option String × Json} (h : m.1 ≠ some name) :
    valuesOf name (m :: ms) = valuesOf name ms := by
  simp [valuesOf, h]

theorem others_cons_of_ne {m : Option String × Json} (h : m.1 ≠ some name) :
    others name (m :: ms) = m :: others name ms := by
  simp [others, h]

theorem valuesOf_others (h : k ≠ name) : valuesOf k (others name ms) = valuesOf k ms := by
  have sameMembers : (others name ms).filter (fun m => m.1 = some k) =
      ms.filter fun m => m.1 = some k := by
    rw [others, List.filter_filter]
    refine List.filter_congr fun m _ => ?_
    by_cases hm : m.1 = some k <;> simp [hm, h]
  rw [valuesOf, sameMembers, valuesOf]

variable {ms} {ms' : List (Option String × Json)}

theorem valuesOf_perm (perm : ms.Perm ms') : (valuesOf name ms).Perm (valuesOf name ms') :=
  (perm.filter _).map _

theorem others_perm (perm : ms.Perm ms') : (others name ms).Perm (others name ms') :=
  perm.filter _

theorem missing_iff : some name ∉ ms.map (·.1) ↔ valuesOf name ms = [] := by
  rw [valuesOf, List.map_eq_nil_iff, List.filter_eq_nil_iff]
  simp only [List.mem_map, not_exists, not_and, decide_eq_true_eq]

theorem others_of_missing (missing : some name ∉ ms.map (·.1)) : others name ms = ms :=
  List.filter_eq_self.mpr fun _ hm => decide_eq_true fun own =>
    missing (own ▸ List.mem_map_of_mem hm)

end Names

/-! ## Slots -/

/-- What members of a field's name leave in its slot: the first value is
read into an empty slot, and a second one is a fault. -/
inductive FieldSpec.Fills (f : FieldSpec α) : Option α → List Json → Option α → Prop
  | left (slot : Option α) : Fills f slot [] slot
  | given {j : Json} {x : α} (read : f.read j = .ok x) : Fills f none [j] (some x)

theorem FieldSpec.fills_some_cons (f : FieldSpec α) (x : α) (j : Json) (js : List Json)
    (slot : Option α) : ¬ f.Fills (some x) (j :: js) slot := nofun

theorem FieldSpec.fills_none_cons (f : FieldSpec α) (j : Json) (js : List Json)
    (slot : Option α) :
    f.Fills none (j :: js) slot ↔ ∃ x, f.read j = .ok x ∧ f.Fills (some x) js slot := by
  constructor
  · intro h
    cases h with
    | given read => exact ⟨_, read, .left _⟩
  · rintro ⟨x, read, rest⟩
    cases rest with
    | left => exact .given read

/-- Members of a name are read into its slot, and the others into theirs. -/
theorem Fields.putAll_cons_eq_ok (f : FieldSpec α) (fs : Fields ts)
    {ms : List (Option String × Json)} {slot slot' : Option α} {ss ss' : Slots ts} :
    (Fields.cons f fs).putAll false ms (slot, ss) = .ok (slot', ss') ↔
      f.Fills slot (valuesOf f.name ms) slot' ∧
        fs.putAll false (others f.name ms) ss = .ok ss' := by
  induction ms generalizing slot ss with
  | nil =>
    constructor
    · rintro ⟨⟩
      exact ⟨.left _, rfl⟩
    · rintro ⟨⟨⟩, ⟨⟩⟩
      rfl
  | cons m ms ih =>
    obtain ⟨k, j⟩ := m
    cases k with
    | none =>
      rw [others_cons_of_ne ms (by simp)]
      simp [putAll]
    | some k =>
      by_cases own : k = f.name
      · subst own
        rw [valuesOf_cons_self, others_cons_self]
        simp only [putAll, put, if_true]
        cases slot with
        | some x =>
          simp only [f.fills_some_cons, false_and, iff_false]
          exact nofun
        | none =>
          rw [f.fills_none_cons]
          cases f.read j with
          | error e =>
            simp only [reduceCtorEq, false_and, exists_false, iff_false]
            exact nofun
          | ok x =>
            simp only [Except.ok.injEq, exists_eq_left']
            exact ih
      · have other : (some k, j).1 ≠ some f.name := fun same => own (Option.some.inj same)
        rw [valuesOf_cons_of_ne ms other, others_cons_of_ne ms other]
        simp only [putAll, put, if_neg own]
        cases put k j fs ss with
        | none =>
          by_cases intact : j.isIntact = true
          · simpa [intact] using ih
          · simp [intact]
        | some r =>
          cases r with
          | error e => exact iff_of_false nofun fun h => nomatch h.2
          | ok ss₁ => exact ih

/-! ## Records as objects -/

/-- Members that can be skipped where they belong to none of the names. -/
def Skips (names : List String) (ms : List (Option String × Json)) : Prop :=
  ∀ m ∈ ms, ∃ k, m.1 = some k ∧ (k ∉ names → m.2.isIntact = true)

theorem Fields.putAll_nil_eq_ok {ms : List (Option String × Json)} {ss : Slots []} :
    Fields.nil.putAll false ms () = .ok ss ↔ Skips [] ms := by
  induction ms with
  | nil => exact iff_of_true rfl (List.forall_mem_nil _)
  | cons m ms ih =>
    obtain ⟨k, j⟩ := m
    rw [Skips, List.forall_mem_cons, ← Skips, ← ih]
    cases k with
    | none => simp [putAll]
    | some k =>
      by_cases intact : j.isIntact = true <;> simp [putAll, put, intact]

theorem skips_cons_names (name : String) (names : List String) (ms : List (Option String × Json)) :
    Skips (name :: names) ms ↔ Skips names (others name ms) := by
  simp only [Skips, others, List.mem_filter, decide_eq_true_eq]
  constructor
  · rintro h m ⟨hm, other⟩
    obtain ⟨k, hk, intact⟩ := h m hm
    refine ⟨k, hk, fun unknown => intact ?_⟩
    rintro (_ | ⟨_, known⟩)
    · exact other hk
    · exact unknown known
  · intro h m hm
    by_cases own : m.1 = some name
    · exact ⟨name, own, fun unknown => absurd List.mem_cons_self unknown⟩
    · obtain ⟨k, hk, intact⟩ := h m ⟨hm, own⟩
      exact ⟨k, hk, fun unknown => intact fun known => unknown (List.mem_cons_of_mem _ known)⟩

/-- What a field takes from the values of the members of its name: the
only value, or without one its default. -/
inductive FieldSpec.Takes (f : FieldSpec α) : List Json → α → Prop
  | given {j : Json} {x : α} (read : f.read j = .ok x) : Takes f [j] x
  | missing {x : α} (default : f.default? = some x) : Takes f [] x

theorem FieldSpec.takes_iff (f : FieldSpec α) (js : List Json) (x : α) :
    f.Takes js x ↔ ∃ slot, f.Fills none js slot ∧ slot.or f.default? = some x := by
  constructor
  · rintro (read | default)
    · exact ⟨some x, .given read, rfl⟩
    · exact ⟨none, .left none, default⟩
  · rintro ⟨_, ⟨⟩ | read, value⟩
    · exact .missing value
    · cases value
      exact .given read

theorem FieldSpec.takes_nil (f : FieldSpec α) {x : α} : f.Takes [] x ↔ f.default? = some x :=
  ⟨fun | .missing default => default, .missing⟩

theorem FieldSpec.takes_singleton (f : FieldSpec α) {j : Json} {x : α} :
    f.Takes [j] x ↔ f.read j = .ok x :=
  ⟨fun | .given read => read, .given⟩

/-- Members that give fields their values, in whatever order. -/
def Fields.Gives : {ts : List Type} → Fields ts → List (Option String × Json) → Values ts → Prop
  | _, .nil, _, _ => True
  | _, .cons f fs, ms, (x, xs) => f.Takes (valuesOf f.name ms) x ∧ fs.Gives ms xs

theorem Fields.gives_congr {fs : Fields ts} {ms ms' : List (Option String × Json)} {xs : Values ts}
    (h : ∀ name ∈ fs.names, valuesOf name ms = valuesOf name ms') :
    fs.Gives ms xs ↔ fs.Gives ms' xs := by
  induction fs with
  | nil => exact Iff.rfl
  | cons f fs ih =>
    obtain ⟨x, xs⟩ := xs
    rw [Gives, Gives, h f.name List.mem_cons_self,
      ih fun name hname => h name (List.mem_cons_of_mem _ hname)]

/-- A member of an unknown name gives nothing. -/
theorem Fields.gives_cons_of_unknown {fs : Fields ts} {name : String} (unknown : name ∉ fs.names)
    {j : Json} {ms : List (Option String × Json)} {xs : Values ts} :
    fs.Gives ((some name, j) :: ms) xs ↔ fs.Gives ms xs :=
  gives_congr fun _ known => valuesOf_cons_of_ne ms fun same =>
    unknown (Option.some.inj same ▸ known)

/-- The value of a first field is put before those of the others. -/
theorem pair_eq_ok {r : Except ReadError (Values ts)} {x y : α} {xs : Values ts} :
    (do
      let ys ← r
      pure ((y, ys) : Values (α :: ts))) = .ok (x, xs) ↔ y = x ∧ r = .ok xs := by
  cases r with
  | error e => exact iff_of_false nofun fun h => nomatch h.2
  | ok ys =>
    rw [Except.ok.injEq]
    exact (Except.ok.injEq ..).to_iff.trans (Prod.mk.injEq ..).to_iff

theorem Fields.finish_cons_eq_ok (f : FieldSpec α) (fs : Fields ts) (slot : Option α)
    (ss : Slots ts) (x : α) (xs : Values ts) :
    (Fields.cons f fs).finish (slot, ss) = .ok (x, xs) ↔
      slot.or f.default? = some x ∧ fs.finish ss = .ok xs := by
  rw [finish]
  cases slot.or f.default? with
  | none => simp
  | some y =>
    rw [Option.some.injEq]
    exact pair_eq_ok

/-- A record is read from an object if every field takes a value from the
members of its name, and the members of other names can be skipped. -/
theorem Fields.read_object_eq_ok {fs : Fields ts} (distinct : fs.names.Nodup)
    {ms : List (Option String × Json)} {xs : Values ts} :
    fs.read false (.object ms) = .ok xs ↔ Skips fs.names ms ∧ fs.Gives ms xs := by
  rw [Fields.read, bind_eq_ok]
  induction fs generalizing ms with
  | nil =>
    simp only [Slots.empty, putAll_nil_eq_ok, finish, names, Gives, and_true]
    exact ⟨fun ⟨_, h, _⟩ => h, fun h => ⟨(), h, rfl⟩⟩
  | cons f fs ih =>
    obtain ⟨x, xs⟩ := xs
    obtain ⟨fresh, distinct⟩ := List.nodup_cons.mp distinct
    have rest : (∃ ss, fs.putAll false (others f.name ms) (.empty _) = .ok ss ∧
        fs.finish ss = .ok xs) ↔ Skips fs.names (others f.name ms) ∧ fs.Gives ms xs := by
      rw [ih distinct, gives_congr fun name hname =>
        valuesOf_others ms fun (same : name = f.name) => fresh (same ▸ hname)]
    rw [names, skips_cons_names, Gives, FieldSpec.takes_iff, and_left_comm, ← rest]
    constructor
    · rintro ⟨⟨slot, ss⟩, put, finish⟩
      obtain ⟨fills, put⟩ := (putAll_cons_eq_ok f fs).mp put
      obtain ⟨value, finish⟩ := (finish_cons_eq_ok f fs slot ss x xs).mp finish
      exact ⟨⟨slot, fills, value⟩, ss, put, finish⟩
    · rintro ⟨⟨slot, fills, value⟩, ss, put, finish⟩
      exact ⟨(slot, ss), (putAll_cons_eq_ok f fs).mpr ⟨fills, put⟩,
        (finish_cons_eq_ok f fs slot ss x xs).mpr ⟨value, finish⟩⟩

/-! ## Records as arrays -/

theorem Fields.readInOrder_cons_eq_ok (f : FieldSpec α) (fs : Fields ts) (j : Json)
    (js : List Json) (x : α) (xs : Values ts) :
    (Fields.cons f fs).readInOrder (j :: js) = .ok (x, xs) ↔
      f.read j = .ok x ∧ fs.readInOrder js = .ok xs := by
  rw [readInOrder]
  cases f.read j with
  | error e => exact iff_of_false nofun fun h => nomatch h.1
  | ok y =>
    rw [Except.ok.injEq]
    exact pair_eq_ok

theorem Fields.readInOrder_nil_eq_ok (f : FieldSpec α) (fs : Fields ts) (x : α) (xs : Values ts) :
    (Fields.cons f fs).readInOrder [] = .ok (x, xs) ↔
      f.default? = some x ∧ fs.readInOrder [] = .ok xs := by
  rw [readInOrder]
  cases f.default? with
  | none => simp
  | some y =>
    rw [Option.some.injEq]
    exact pair_eq_ok

end Json

/-! ## Members of a body -/

open Json Emission

/-- The kind of a member, as a field whose value is the reader for it. -/
def kindField : FieldSpec (Reader Member) := ⟨"kind", readMemberKind, none⟩

/-- The kind is taken out, and what is left has to be readable. -/
theorem takeKind_eq_ok {ms rest : List (Option String × Json)}
    {slot slot' : Option (Reader Member)} :
    takeKind slot ms = .ok (slot', rest) ↔
      kindField.Fills slot (valuesOf "kind" ms) slot' ∧ membersReadable rest = true ∧
        others "kind" ms = rest := by
  induction ms generalizing slot slot' rest with
  | nil =>
    constructor
    · rintro ⟨⟩
      exact ⟨.left _, rfl, rfl⟩
    · rintro ⟨⟨⟩, -, ⟨⟩⟩
      rfl
  | cons m ms ih =>
    obtain ⟨k, j⟩ := m
    cases k with
    | none =>
      rw [others_cons_of_ne ms (by simp)]
      refine iff_of_false (by simp [takeKind]) ?_
      rintro ⟨-, readable, rfl⟩
      simp [membersReadable] at readable
    | some k =>
      by_cases own : k = "kind"
      · subst own
        rw [valuesOf_cons_self, others_cons_self]
        simp only [takeKind, if_true]
        cases slot with
        | some r => simp [kindField.fills_some_cons]
        | none =>
          rw [kindField.fills_none_cons]
          simp only [Option.isSome_none, Bool.false_eq_true, if_false, bind_eq_ok, ih]
          constructor
          · rintro ⟨r, read, fills, others⟩
            exact ⟨⟨r, read, fills⟩, others⟩
          · rintro ⟨⟨r, read, fills⟩, others⟩
            exact ⟨r, read, fills, others⟩
      · have other : (some k, j).1 ≠ some "kind" := fun same => own (Option.some.inj same)
        rw [valuesOf_cons_of_ne ms other, others_cons_of_ne ms other]
        by_cases readable : j.isReadable = true
        · simp only [takeKind, if_neg own, if_pos readable, bind_eq_ok, Prod.exists, ih, pure_eq_ok,
            Except.ok.injEq, Prod.mk.injEq]
          constructor
          · rintro ⟨_, rest, ⟨fills, rests, taken⟩, rfl, rfl⟩
            exact ⟨fills, by simp [membersReadable, readable, rests], by rw [taken]⟩
          · rintro ⟨fills, rests, rfl⟩
            simp only [membersReadable, Bool.and_eq_true] at rests
            exact ⟨slot', _, ⟨fills, rests.2, rfl⟩, rfl, rfl⟩
        · refine iff_of_false (by simp [takeKind, own, readable]) ?_
          rintro ⟨-, rests, rfl⟩
          simp [membersReadable, readable] at rests

/-- A kind is read from its name. -/
theorem readMemberKind_eq_ok {j : Json} {r : Reader Member} :
    readMemberKind j = .ok r ↔ ∃ k, j = .string k ∧ memberReaders.lookup k = some r := by
  unfold readMemberKind
  split
  · next k => cases found : memberReaders.lookup k <;> simp [found]
  · next other =>
    refine iff_of_false (by simp) ?_
    rintro ⟨k, rfl, -⟩
    exact other k rfl

/-- Every member has to have a kind. -/
theorem kindField_fills {js : List Json} {slot : Option (Reader Member)} :
    kindField.Fills none js slot ∧ slot.isSome = true ↔
      ∃ k r, js = [.string k] ∧ memberReaders.lookup k = some r ∧ slot = some r := by
  constructor
  · rintro ⟨fills, kind⟩
    cases fills with
    | left => cases kind
    | @given j r read =>
      obtain ⟨k, rfl, found⟩ := readMemberKind_eq_ok.mp read
      exact ⟨k, r, rfl, found, rfl⟩
  · rintro ⟨k, r, rfl, found, rfl⟩
    exact ⟨.given (readMemberKind_eq_ok.mpr ⟨k, rfl, found⟩), rfl⟩

/-- A member is read from an object with one kind if the reader for the
kind reads it from the other members, all of which are readable. -/
theorem readMember_object_eq_ok {ms : List (Option String × Json)} {m : Member} :
    readMember (.object ms) = .ok m ↔
      ∃ k r, valuesOf "kind" ms = [.string k] ∧ memberReaders.lookup k = some r ∧
        membersReadable (others "kind" ms) = true ∧ r (.object (others "kind" ms)) = .ok m := by
  simp only [readMember, bind_eq_ok, Prod.exists, takeKind_eq_ok]
  constructor
  · rintro ⟨slot, rest, ⟨fills, readable, rfl⟩, read⟩
    cases slot with
    | none => cases read
    | some r =>
      obtain ⟨k, r, kind, found, ⟨⟩⟩ := kindField_fills.mp ⟨fills, rfl⟩
      exact ⟨k, r, kind, found, readable, read⟩
  · rintro ⟨k, r, kind, found, readable, read⟩
    obtain ⟨fills, -⟩ := kindField_fills.mpr ⟨k, r, kind, found, rfl⟩
    exact ⟨some r, _, ⟨fills, readable, rfl⟩, read⟩

/-- So it is with an array that starts with the kind. -/
theorem readMember_array_eq_ok {js : List Json} {m : Member} :
    readMember (.array js) = .ok m ↔
      ∃ k r js', js = .string k :: js' ∧ memberReaders.lookup k = some r ∧
        itemsReadable js' = true ∧ r (.array js') = .ok m := by
  cases js with
  | nil => simp [readMember]
  | cons j js =>
    cases readable : itemsReadable js with
    | true =>
      simp only [readMember, bind_eq_ok, readMemberKind_eq_ok, isReadable, readable, if_true,
        List.cons.injEq]
      constructor
      · rintro ⟨r, ⟨k, rfl, found⟩, read⟩
        exact ⟨k, r, js, ⟨rfl, rfl⟩, found, readable, read⟩
      · rintro ⟨k, r, _, ⟨rfl, rfl⟩, found, -, read⟩
        exact ⟨r, ⟨k, rfl, found⟩, read⟩
    | false =>
      simp only [readMember, bind_eq_ok, isReadable, readable, Bool.false_eq_true, if_false]
      refine iff_of_false (fun ⟨r, _, read⟩ => nomatch read) ?_
      rintro ⟨k, r, _, ⟨⟩, -, readable', -⟩
      rw [readable] at readable'
      cases readable'

end ObjcDecl
