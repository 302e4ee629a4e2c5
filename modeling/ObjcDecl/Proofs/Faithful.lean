import ObjcDecl.Proofs.Format
import ObjcDecl.Proofs.RecordReading

/-!
# Readers that follow a document's presentation

A reader is faithful to a shape if what it reads stays the same when the
presentation of the value changes, and when parts come to light that were
nested too deep before (`Faithful`). The laws below are one for each way of
putting readers together, as the shapes are put together. A record's law
asks that its fields agree with the table of a struct, name by name and
default by default (`Agrees`).
-/

namespace ObjcDecl.Format

open Json Emission

variable {α β : Type}

/-! ## Values nested too deep -/

theorem limitItems_eq_map (n : Nat) (js : List Json) : limitItems n js = js.map (limit n) := by
  induction js with
  | nil => rfl
  | cons j js ih => rw [limitItems, ih, List.map_cons]

theorem limitMembers_eq_map (n : Nat) (ms : List (Option String × Json)) :
    limitMembers n ms = ms.map fun m => (m.1, limit n m.2) := by
  induction ms with
  | nil => rfl
  | cons m ms ih => rw [limitMembers, ih, List.map_cons]

theorem isIntact_tooDeep (j : Json) : (tooDeep j).isIntact = j.isIntact := by
  unfold tooDeep
  split
  · next intact => simp [intact, isIntact]
  · next broken => simp [broken, isIntact]

mutual

/-- What is nested too deep is skipped as it would have been. -/
theorem isIntact_limit : ∀ (n : Nat) (j : Json), (limit n j).isIntact = j.isIntact
  | 0, .array _ | 0, .object _ => by rw [limit, isIntact_tooDeep]
  | n + 1, .array js => itemsIntact_limit n js
  | n + 1, .object ms => membersIntact_limit n ms
  | _, .null | _, .bool _ | _, .integer _ | _, .decimal _ _ | _, .string _ | _, .unreadable
  | _, .broken => by simp only [limit]

theorem itemsIntact_limit : ∀ (n : Nat) (js : List Json),
    itemsIntact (limitItems n js) = itemsIntact js
  | _, [] => rfl
  | n, j :: js => by rw [limitItems, itemsIntact, isIntact_limit, itemsIntact_limit, itemsIntact]

theorem membersIntact_limit : ∀ (n : Nat) (ms : List (Option String × Json)),
    membersIntact (limitMembers n ms) = membersIntact ms
  | _, [] => rfl
  | n, (_, j) :: ms => by
    rw [limitMembers, membersIntact, isIntact_limit, membersIntact_limit, membersIntact]

end

theorem not_isReadable_tooDeep (j : Json) : (tooDeep j).isReadable = false := by
  unfold tooDeep
  split <;> rfl

mutual

/-- A value that is readable in all its parts has none nested too deep. -/
theorem limit_of_isReadable : ∀ {n : Nat} {j : Json}, (limit n j).isReadable = true → limit n j = j
  | 0, .array _, h | 0, .object _, h => by
    rw [limit, not_isReadable_tooDeep] at h
    cases h
  | n + 1, .array js, h => congrArg Json.array (limitItems_of_itemsReadable h)
  | n + 1, .object ms, h => congrArg Json.object (limitMembers_of_membersReadable h)
  | _, .null, _ | _, .bool _, _ | _, .integer _, _ | _, .decimal _ _, _ | _, .string _, _
  | _, .unreadable, _ | _, .broken, _ => by simp only [limit]

theorem limitItems_of_itemsReadable : ∀ {n : Nat} {js : List Json},
    itemsReadable (limitItems n js) = true → limitItems n js = js
  | _, [], _ => rfl
  | n, j :: js, h => by
    simp only [limitItems, itemsReadable, Bool.and_eq_true] at h
    rw [limitItems, limit_of_isReadable h.1, limitItems_of_itemsReadable h.2]

theorem limitMembers_of_membersReadable : ∀ {n : Nat} {ms : List (Option String × Json)},
    membersReadable (limitMembers n ms) = true → limitMembers n ms = ms
  | _, [], _ => rfl
  | n, (k, j) :: ms, h => by
    simp only [limitMembers, membersReadable, Bool.and_eq_true] at h
    rw [limitMembers, limit_of_isReadable h.1.2, limitMembers_of_membersReadable h.2]

end

/-! ## Faithful readers -/

/-- What is read of the first value is read of the second. -/
def Follows (r : Reader α) (j j' : Json) : Prop := ∀ x, r j = .ok x → r j' = .ok x

/-- A reader that does not depend on the presentation of values of a
shape, and that makes nothing of what is nested too deep. -/
structure Faithful (shape : Shape) (r : Reader α) : Prop where
  change {j j' : Json} (h : Change shape j j') : Follows r j j'
  limit (n : Nat) (j : Json) : Follows r (limit n j) j

variable {shape : Shape} {r : Reader α}

theorem Faithful.presents (h : Faithful shape r) {j j' : Json} (presents : Presents shape j j') :
    Follows r j j' := by
  induction presents with
  | refl => exact fun _ => id
  | tail _ change ih => exact fun x read => h.change change x (ih x read)

/-- An array or an object. -/
inductive IsContainer : Json → Prop
  | array (js : List Json) : IsContainer (.array js)
  | object (ms : List (Option String × Json)) : IsContainer (.object ms)

/-- Only arrays and objects have more than one presentation. -/
theorem Change.containers {j j' : Json} (h : Change shape j j') :
    IsContainer j ∧ IsContainer j' := by
  cases h <;> constructor <;> constructor

/-- It is enough to look at arrays and objects that are not nested too deep
themselves. -/
theorem follows_limit (unreadable : ∀ x, r .unreadable ≠ .ok x) (broken : ∀ x, r .broken ≠ .ok x)
    (array : ∀ n js x, r (.array (js.map (Json.limit n))) = .ok x → r (.array js) = .ok x)
    (object : ∀ n ms x, r (.object (ms.map fun m => (m.1, Json.limit n m.2))) = .ok x →
      r (.object ms) = .ok x) (n : Nat) (j : Json) : Follows r (Json.limit n j) j := by
  have deep (j : Json) : Follows r (tooDeep j) j := by
    intro x read
    unfold tooDeep at read
    split at read
    · exact absurd read (unreadable x)
    · exact absurd read (broken x)
  intro x read
  cases j with
  | array js =>
    cases n with
    | zero => exact deep _ x (by simpa only [Json.limit] using read)
    | succ n => exact array n js x (by simpa only [Json.limit, limitItems_eq_map] using read)
  | object ms =>
    cases n with
    | zero => exact deep _ x (by simpa only [Json.limit] using read)
    | succ n => exact object n ms x (by simpa only [Json.limit, limitMembers_eq_map] using read)
  | _ => simpa only [Json.limit] using read

/-- Readers that take neither arrays nor objects. -/
theorem Faithful.scalar (array : ∀ js x, r (.array js) ≠ .ok x)
    (object : ∀ ms x, r (.object ms) ≠ .ok x) (unreadable : ∀ x, r .unreadable ≠ .ok x)
    (broken : ∀ x, r .broken ≠ .ok x) : Faithful shape r where
  change change x read := by
    cases change.containers.1 with
    | array js => exact absurd read (array js x)
    | object ms => exact absurd read (object ms x)
  limit := follows_limit unreadable broken (fun _ _ x read => absurd read (array _ x))
    fun _ _ x read => absurd read (object _ x)

theorem Faithful.text : Faithful shape readString :=
  .scalar (fun _ _ => nofun) (fun _ _ => nofun) (fun _ => nofun) fun _ => nofun

theorem Faithful.truth : Faithful shape readBool :=
  .scalar (fun _ _ => nofun) (fun _ _ => nofun) (fun _ => nofun) fun _ => nofun

theorem Follows.map {j j' : Json} (h : Follows r j j') (f : α → β) :
    Follows (fun j => (r j).map f) j j' := by
  intro y read
  obtain ⟨x, inner, rfl⟩ := map_eq_ok.mp read
  exact map_eq_ok.mpr ⟨x, h x inner, rfl⟩

theorem Faithful.map (h : Faithful shape r) (f : α → β) :
    Faithful shape fun j => (r j).map f where
  change change := (h.change change).map f
  limit n j := (h.limit n j).map f

theorem readOption_of_ne_null {j : Json} (h : j ≠ .null) :
    readOption r j = (r j).map some := by
  unfold readOption
  split
  · exact absurd rfl h
  · rfl

/-- Where there is something to read, an optional value is read like one
that has to be there. -/
theorem Follows.option {j j' : Json} (h : Follows r j j') (same : j = .null ↔ j' = .null) :
    Follows (readOption r) j j' := by
  intro o read
  by_cases absent : j = .null
  · rwa [same.mp absent, ← absent]
  · rw [readOption_of_ne_null absent] at read
    rw [readOption_of_ne_null (mt same.mpr absent)]
    exact h.map some o read

theorem limit_eq_null {n : Nat} {j : Json} : Json.limit n j = .null ↔ j = .null := by
  cases j with
  | array js =>
    cases n with
    | zero =>
      simp only [Json.limit, tooDeep, reduceCtorEq, iff_false]
      split <;> nofun
    | succ n => simp [Json.limit]
  | object ms =>
    cases n with
    | zero =>
      simp only [Json.limit, tooDeep, reduceCtorEq, iff_false]
      split <;> nofun
    | succ n => simp [Json.limit]
  | _ => simp only [Json.limit]

theorem Faithful.option (h : Faithful shape r) : Faithful shape (readOption r) where
  change {j j'} change := by
    refine (h.change change).option (iff_of_false ?_ ?_)
    · rintro rfl
      cases change.containers.1
    · rintro rfl
      cases change.containers.2
  limit n j := (h.limit n j).option limit_eq_null

/-! ## Lists -/

theorem readItems_follows {j j' : Json} (h : Follows r j j') (before after : List Json)
    {xs : List α} (read : readItems r (before ++ j :: after) = .ok xs) :
    readItems r (before ++ j' :: after) = .ok xs := by
  induction before generalizing xs with
  | nil =>
    simp only [List.nil_append, readItems, bind_eq_ok] at read ⊢
    obtain ⟨x, first, rest⟩ := read
    exact ⟨x, h x first, rest⟩
  | cons i before ih =>
    simp only [List.cons_append, readItems, bind_eq_ok] at read ⊢
    obtain ⟨x, first, ys, rest, same⟩ := read
    exact ⟨x, first, ys, ih rest, same⟩

theorem readItems_limit (h : ∀ n j, Follows r (Json.limit n j) j) (n : Nat) (js : List Json)
    {xs : List α} (read : readItems r (js.map (Json.limit n)) = .ok xs) :
    readItems r js = .ok xs := by
  induction js generalizing xs with
  | nil => exact read
  | cons j js ih =>
    simp only [List.map_cons, readItems, bind_eq_ok] at read ⊢
    obtain ⟨x, first, ys, rest, same⟩ := read
    exact ⟨x, h n j x first, ys, ih rest, same⟩

theorem Faithful.list (h : Faithful shape r) : Faithful (.list shape) (readList r) where
  change change xs read := by
    cases change with
    | reordered => cases read
    | listItem change => exact readItems_follows (h.change change) _ _ read
  limit := follows_limit (fun _ => nofun) (fun _ => nofun)
    (fun n js xs => readItems_limit h.limit n js) fun _ _ _ => nofun

/-! ## Choices -/

section Choices

variable {buffered : Bool} {alternatives : List (String × Alternative α)}

/-- What an alternative carries is read faithfully. One that carries
nothing has nothing to be presented otherwise. -/
inductive Carries (shape : Shape) : Alternative α → Prop
  | plain (x : α) (h : shape = .plain) : Carries shape (.plain x)
  | carrying {r : Reader α} (h : Faithful shape r) : Carries shape (.carrying r)

theorem readChoice_object_eq_ok {ms : List (Option String × Json)} {x : α} :
    readChoice buffered alternatives (.object ms) = .ok x ↔
      ∃ k j a, ms = [(some k, j)] ∧ alternatives.lookup k = some a ∧ a.read buffered j = .ok x := by
  constructor
  · intro read
    match ms, read with
    | [(some k, j)], read =>
      simp only [readChoice, List.isEmpty_nil, Bool.not_true, Bool.and_false, Bool.false_eq_true,
        if_false, if_true, pure_eq_ok, bind_ok] at read
      cases found : alternatives.lookup k with
      | none => simp [found] at read
      | some a => exact ⟨k, j, a, rfl, found, by simpa [found] using read⟩
    | (some k, j) :: m :: ms, read =>
      exfalso
      simp only [readChoice, List.isEmpty_cons, Bool.not_false, Bool.and_true] at read
      split at read
      · cases read
      · cases found : alternatives.lookup k with
        | none => simp [found] at read
        | some a => simp [found, bind_eq_ok] at read
  · rintro ⟨k, j, a, rfl, found, read⟩
    simp [readChoice, found, read]

theorem Carries.change {a : Alternative α} (h : Carries shape a) {j j' : Json}
    (change : Change shape j j') : Follows (a.read buffered) j j' := by
  cases h with
  | carrying h => exact h.change change
  | plain y h =>
    subst h
    intro x read
    -- a plain alternative takes no container but the empty object
    cases change with
    | @reordered _ ms _ perm =>
      cases ms with
      | nil => rwa [List.nil_perm.mp perm]
      | cons => cases read
    | plainMember => cases read
    | plainItem => cases read

theorem Carries.limit {a : Alternative α} (h : Carries shape a) (n : Nat) (j : Json) :
    Follows (a.read buffered) (Json.limit n j) j := by
  cases h with
  | carrying h => exact h.limit n j
  | plain y h =>
    refine follows_limit ?_ ?_ ?_ ?_ n j
    · exact fun _ => nofun
    · exact fun _ => nofun
    · exact fun _ _ _ => nofun
    · intro n ms x read
      cases ms with
      | nil => exact read
      | cons => cases read

theorem mem_of_lookup {l : List (String × β)} {k : String} {b : β} (found : l.lookup k = some b) :
    (k, b) ∈ l := by
  obtain ⟨before, after, rfl, -⟩ := List.lookup_eq_some_iff.mp found
  exact List.mem_append_right before List.mem_cons_self

theorem Faithful.choice {c : Choice} (h : ∀ m ∈ alternatives, Carries (c.shape m.1) m.2) :
    Faithful (.choice c) (readChoice buffered alternatives) where
  change change x read := by
    cases change with
    | @reordered _ ms _ perm =>
      obtain ⟨k, j, a, rfl, -⟩ := readChoice_object_eq_ok.mp read
      rwa [← List.singleton_perm.mp perm]
    | @carried _ k _ _ change =>
      obtain ⟨_, _, a, same, found, read⟩ := readChoice_object_eq_ok.mp read
      cases same
      exact readChoice_object_eq_ok.mpr
        ⟨k, _, a, rfl, found, (h _ (mem_of_lookup found)).change change x read⟩
  limit := by
    refine follows_limit (fun _ => nofun) (fun _ => nofun) (fun _ _ _ => nofun) ?_
    intro n ms x read
    obtain ⟨k, i, a, single, found, read⟩ := readChoice_object_eq_ok.mp read
    obtain ⟨⟨key, j⟩, rfl, same⟩ := List.map_eq_singleton_iff.mp single
    simp only [Prod.mk.injEq] at same
    obtain ⟨rfl, rfl⟩ := same
    exact readChoice_object_eq_ok.mpr
      ⟨k, j, a, rfl, found, (h _ (mem_of_lookup found)).limit n j x read⟩

end Choices

end ObjcDecl.Format
