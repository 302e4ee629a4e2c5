import ObjcDecl.Json.Reader
import ObjcDecl.Proofs.JsonText

/-!
# Typed values are read back

A value of a type is written as a plain JSON value, and a reader for the
type gets it back as long as that is not nested too deep
(`Represents n r j x`). The laws below are one for each way of putting
readers together: options, lists, choices, records. A type's own law then
names its parts in the order in which it is written.

A record is an object with its members in the order of the fields.
`Members` goes through both side by side; as the names of the fields are
distinct, every member finds the slot of its field empty
(`Members.putAll_eq`).
-/

namespace ObjcDecl.Json

/-- A plain value that a reader reads as `x`, if it is nested no deeper
than `n`. -/
structure Represents {α : Type} (n : Nat) (r : Reader α) (j : Json) (x : α) : Prop where
  plain : j.isPlain = true
  read : j.depth ≤ n → r j = .ok x

variable {α β : Type} {n : Nat} {r : Reader α} {j : Json} {x : α}

/-! ## Plain values and their depth -/

mutual

theorem isReadable_of_isPlain : ∀ {j : Json}, j.isPlain = true → j.isReadable = true
  | .null, _ | .bool _, _ | .string _, _ => rfl
  | .array _, h => itemsReadable_of_itemsPlain h
  | .object _, h => membersReadable_of_membersPlain h

theorem itemsReadable_of_itemsPlain : ∀ {js : List Json}, itemsPlain js = true →
    itemsReadable js = true
  | [], _ => rfl
  | _ :: _, h => by
    simp only [itemsPlain, Bool.and_eq_true] at h
    simp [itemsReadable, isReadable_of_isPlain h.1, itemsReadable_of_itemsPlain h.2]

theorem membersReadable_of_membersPlain : ∀ {ms : List (Option String × Json)},
    membersPlain ms = true → membersReadable ms = true
  | [], _ => rfl
  | (_, _) :: _, h => by
    simp only [membersPlain, Bool.and_eq_true] at h
    simp [membersReadable, h.1.1, isReadable_of_isPlain h.1.2, membersReadable_of_membersPlain h.2]

end

/-- The members of an object, with their names. -/
def named (ms : List (String × Json)) : List (Option String × Json) :=
  ms.map fun (k, j) => (some k, j)

theorem named_cons (k : String) (j : Json) (ms : List (String × Json)) :
    named ((k, j) :: ms) = (some k, j) :: named ms := rfl

theorem ofMembers_eq (ms : List (String × Json)) : ofMembers ms = .object (named ms) := rfl

/-! ## Plain readers -/

theorem Represents.string (s : String) : Represents n readString (.string s) s :=
  ⟨rfl, fun _ => rfl⟩

theorem Represents.bool (b : Bool) : Represents n readBool (.bool b) b := ⟨rfl, fun _ => rfl⟩

theorem Represents.map (f : α → β) (h : Represents n r j x) :
    Represents n (fun j => (r j).map f) j (f x) :=
  ⟨h.plain, fun depth => by rw [h.read depth]; rfl⟩

/-! ## Options and lists -/

/-- `null` stands for absence, so nothing else may be written as `null`. -/
theorem Represents.option {write : α → Json} (h : ∀ x, Represents n r (write x) x)
    (notNull : ∀ x, write x ≠ .null) (o : Option α) :
    Represents n (readOption r) (ofOption (o.map write)) o := by
  cases o with
  | none => exact ⟨rfl, fun _ => rfl⟩
  | some x =>
    refine ⟨(h x).plain, fun depth => ?_⟩
    have value : readOption r (write x) = (r (write x)).map some := by
      unfold readOption
      split
      · next null => exact absurd null (notNull x)
      · rfl
    rw [Option.map_some, ofOption, value, (h x).read depth]
    rfl

theorem readItems_map {write : α → Json} {xs : List α}
    (h : ∀ x ∈ xs, Represents n r (write x) x) (depth : itemsDepth (xs.map write) ≤ n) :
    readItems r (xs.map write) = .ok xs := by
  induction xs with
  | nil => rfl
  | cons x xs ih =>
    simp only [List.map_cons, itemsDepth, Nat.max_le] at depth
    have first := (h x List.mem_cons_self).read depth.1
    have others := ih (fun y hy => h y (List.mem_cons_of_mem x hy)) depth.2
    simp only [List.map_cons, readItems, first, others]
    rfl

theorem itemsPlain_map {write : α → Json} {xs : List α}
    (h : ∀ x ∈ xs, (write x).isPlain = true) : itemsPlain (xs.map write) = true := by
  induction xs with
  | nil => rfl
  | cons x xs ih =>
    rw [List.map_cons, itemsPlain, h x List.mem_cons_self,
      ih fun y hy => h y (List.mem_cons_of_mem x hy), Bool.and_self]

theorem Represents.list {write : α → Json} {xs : List α}
    (h : ∀ x ∈ xs, Represents n r (write x) x) :
    Represents n (readList r) (.array (xs.map write)) xs where
  plain := itemsPlain_map fun x hx => (h x hx).plain
  read depth := readItems_map h (Nat.le_of_succ_le depth)

/-! ## Choices -/

section Choices

variable {buffered : Bool} {alternatives : List (String × Alternative α)} {k : String}

theorem Represents.plainChoice (h : alternatives.lookup k = some (.plain x)) :
    Represents n (readChoice buffered alternatives) (.string k) x :=
  ⟨rfl, fun _ => by simp [readChoice, h]⟩

/-- What an alternative carries stands one level deeper than the choice. -/
theorem Represents.carryingChoice (found : alternatives.lookup k = some (.carrying r))
    (plain : j.isPlain = true) (h : ∀ m, n = m + 1 → Represents m r j x) :
    Represents n (readChoice buffered alternatives) (ofMembers [(k, j)]) x where
  plain := by simp [ofMembers, isPlain, membersPlain, plain]
  read depth := by
    cases n with
    | zero => exact absurd depth (Nat.not_succ_le_zero _)
    | succ m =>
      have inner : j.depth ≤ m :=
        (Nat.max_le.mp (Nat.le_of_succ_le_succ depth)).1
      simp [ofMembers, readChoice, found, Alternative.read, (h m rfl).read inner]

end Choices

/-! ## Records -/

/-- Members in the order of some fields, which give these their values. -/
inductive Members (n : Nat) :
    {ts : List Type} → Fields ts → List (String × Json) → Values ts → Prop
  | nil : Members n .nil [] ()
  | cons {α : Type} {ts : List Type} {f : FieldSpec α} {fs : Fields ts} {j : Json} {x : α}
    {ms : List (String × Json)} {xs : Values ts} (first : Represents n f.read j x)
    (others : Members n fs ms xs) : Members n (.cons f fs) ((f.name, j) :: ms) (x, xs)

/-- Slots that hold values for all fields. -/
def Slots.full : {ts : List Type} → Values ts → Slots ts
  | [], _ => ()
  | _ :: _, (x, xs) => (some x, full xs)

variable {ts : List Type} {fs : Fields ts} {ms : List (String × Json)} {xs : Values ts}

theorem Members.names (h : Members n fs ms xs) : ms.map (·.1) = fs.names := by
  induction h with
  | nil => rfl
  | cons _ _ ih => rw [List.map_cons, ih, Fields.names]

theorem Members.plain (h : Members n fs ms xs) : (ofMembers ms).isPlain = true := by
  induction h with
  | nil => rfl
  | cons first _ ih =>
    simp only [ofMembers, isPlain] at ih ⊢
    simp [membersPlain, first.plain, ih]

/-- Members that belong to later fields leave the slot of the first one. -/
theorem Fields.putAll_cons (f : FieldSpec α) (refuses : Bool) (slot : Option α)
    {ms : List (String × Json)} (fresh : f.name ∉ ms.map (·.1)) {ss ss' : Slots ts}
    (h : fs.putAll refuses (named ms) ss = .ok ss') :
    (Fields.cons f fs).putAll refuses (named ms) (slot, ss) = .ok (slot, ss') := by
  induction ms generalizing ss with
  | nil =>
    cases h
    rfl
  | cons m ms ih =>
    obtain ⟨k, j⟩ := m
    simp only [List.map_cons, List.mem_cons, not_or] at fresh
    have other : k ≠ f.name := fun same => fresh.1 same.symm
    simp only [named_cons, putAll, put, if_neg other] at h ⊢
    cases hput : put k j fs ss with
    | none =>
      -- no field's member: what skips it without the first field skips it here
      simp only [hput, Option.map_none] at h ⊢
      split at h
      · cases h
      · next known =>
        split at h
        · next intact => simpa [known, intact] using ih fresh.2 h
        · cases h
    | some r =>
      cases r with
      | error e => simp [hput] at h; cases h
      | ok s =>
        simp only [hput, Option.map_some] at h ⊢
        exact ih fresh.2 h

/-- Every member finds the slot of its field empty, and fills it. -/
theorem Members.putAll_eq (h : Members n fs ms xs) (refuses : Bool) (distinct : fs.names.Nodup)
    (depth : membersDepth (named ms) ≤ n) :
    fs.putAll refuses (named ms) (Slots.empty ts) = .ok (Slots.full xs) := by
  induction h with
  | nil => rfl
  | @cons α ts f fs j x ms xs first others ih =>
    simp only [Fields.names, List.nodup_cons, ← others.names] at distinct
    simp only [named_cons, membersDepth, Nat.max_le] at depth
    have others := Fields.putAll_cons f refuses (some x) distinct.1
      (ih (others.names ▸ distinct.2) depth.2)
    simp only [named_cons, Fields.putAll, Fields.put, Slots.empty, if_true, first.read depth.1]
    exact others

/-- Full slots leave nothing to defaults. -/
theorem Fields.finish_full (fs : Fields ts) (xs : Values ts) :
    fs.finish (Slots.full xs) = .ok xs := by
  induction fs with
  | nil => rfl
  | cons f fs ih =>
    obtain ⟨x, xs⟩ := xs
    simp [Slots.full, finish, ih xs]
    rfl

/-- A record is written as its members, in the order of its fields. -/
theorem Represents.record (rec : Record α) {ms : List (String × Json)} {xs : Values rec.types}
    (h : Members n rec.fields ms xs) (distinct : rec.fields.names.Nodup) :
    Represents n rec.read (ofMembers ms) (rec.build xs) where
  plain := h.plain
  read depth := by
    have filled := h.putAll_eq rec.refusesUnknown distinct (Nat.le_of_succ_le depth)
    have values : rec.fields.read rec.refusesUnknown (ofMembers ms) = .ok xs := by
      rw [ofMembers_eq, Fields.read, filled]
      exact rec.fields.finish_full xs
    rw [Record.read, values]
    rfl

end ObjcDecl.Json
