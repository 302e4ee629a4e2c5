import ObjcDecl.Proofs.Faithful

/-!
# Records are read faithfully

A record follows the presentation of a struct if its fields agree with the
table of the struct (`Agrees`): name by name, default by default, with a
faithful reader for every value (`Faithful.record`). Members of a body are
read faithfully if the readers for all their kinds are
(`Faithful.bodyMember`).
-/

namespace ObjcDecl.Format

open Json Emission

variable {α : Type}

/-! ## Records -/

section Records

variable {ts : List Type} {fs : Fields ts} {es : List Entry} {xs : Values ts}
variable {ms ms' : List (Option String × Json)} {j j' : Json}

/-- The fields of a record are the members of a table: in the same order,
of the same names, with faithful readers and the same defaults. -/
inductive Agrees : {ts : List Type} → List Entry → Fields ts → Prop
  | nil : Agrees [] .nil
  | cons {α : Type} {ts : List Type} {e : Entry} {f : FieldSpec α} {es : List Entry}
    {fs : Fields ts} (name : e.name = f.name) (value : Faithful e.shape f.read)
    (default : e.default?.map f.read = f.default?.map .ok) (rest : Agrees es fs) :
    Agrees (e :: es) (.cons f fs)

theorem Agrees.names (h : Agrees es fs) : es.map Entry.name = fs.names := by
  induction h with
  | nil => rfl
  | cons name _ _ _ ih => rw [List.map_cons, name, ih, Fields.names]

/-! ### Members and positions -/

/-- A field follows a change in the value of its own member. -/
theorem Agrees.gives_member (h : Agrees es fs) {k : Option String}
    (change : ∀ e ∈ es, some e.name = k → Change e.shape j j')
    (gives : fs.Gives ((k, j) :: ms) xs) : fs.Gives ((k, j') :: ms) xs := by
  induction h with
  | nil => trivial
  | @cons α ts e f es fs name value default rest ih =>
    obtain ⟨x, xs⟩ := xs
    obtain ⟨takes, gives⟩ := gives
    refine ⟨?_, ih (fun e he => change e (List.mem_cons_of_mem _ he)) gives⟩
    by_cases own : k = some f.name
    · subst own
      have follows := value.change (change e List.mem_cons_self (by rw [name]))
      rw [valuesOf_cons_self] at takes ⊢
      generalize valuesOf f.name ms = js at takes ⊢
      cases takes with
      | given read => exact .given (follows x read)
    · rwa [valuesOf_cons_of_ne ms own] at takes ⊢

theorem Agrees.readInOrder_position (h : Agrees es fs) {before after : List Json}
    (change : ∀ e, es[before.length]? = some e → Change e.shape j j')
    (read : fs.readInOrder (before ++ j :: after) = .ok xs) :
    fs.readInOrder (before ++ j' :: after) = .ok xs := by
  induction h generalizing before with
  | nil => cases before <;> cases read
  | cons name value default rest ih =>
    obtain ⟨x, xs⟩ := xs
    cases before with
    | nil =>
      simp only [List.nil_append, Fields.readInOrder_cons_eq_ok] at read ⊢
      exact ⟨value.change (change _ rfl) x read.1, read.2⟩
    | cons i before =>
      simp only [List.cons_append, Fields.readInOrder_cons_eq_ok] at read ⊢
      exact ⟨read.1, ih (fun e he => change e (by simpa using he)) read.2⟩

/-! ### Defaults -/

/-- A field takes its default from no value as it takes it from the
default written out. -/
theorem takes_default {e : Entry} {f : FieldSpec α}
    (agree : e.default?.map f.read = f.default?.map .ok) (default : e.default? = some j)
    {js : List Json} {x : α} : f.Takes (j :: js) x ↔ f.Takes js x ∧ js = [] := by
  rw [default, Option.map_some, eq_comm, Option.map_eq_some_iff] at agree
  obtain ⟨d, field, read⟩ := agree
  constructor
  · intro takes
    cases takes with
    | given given =>
      rw [← read] at given
      cases given
      exact ⟨.missing field, rfl⟩
  · rintro ⟨takes, rfl⟩
    cases takes with
    | missing given =>
      rw [field] at given
      cases given
      exact .given read.symm

/-- A member at its default gives what no member of its name gives. -/
theorem Agrees.gives_default (h : Agrees es fs) (distinct : fs.names.Nodup) {e : Entry}
    (known : e ∈ es) (default : e.default? = some j) :
    fs.Gives ((some e.name, j) :: ms) xs ↔ fs.Gives ms xs ∧ valuesOf e.name ms = [] := by
  induction h with
  | nil => cases known
  | @cons α ts e' f es fs name value agree rest ih =>
    obtain ⟨x, xs⟩ := xs
    obtain ⟨fresh, distinct⟩ := List.nodup_cons.mp distinct
    rw [Fields.Gives, Fields.Gives]
    rcases List.mem_cons.mp known with same | known
    · subst same
      rw [name, Fields.gives_cons_of_unknown fresh, valuesOf_cons_self,
        takes_default agree default, and_right_comm]
    · have other : (some e.name, j).1 ≠ some f.name := by
        intro same
        exact fresh (Option.some.inj same ▸ rest.names ▸ List.mem_map_of_mem known)
      rw [valuesOf_cons_of_ne ms other, ih distinct known, and_assoc]

/-! ### Objects and arrays -/

theorem valuesOf_membersInOrder {names : List String} {name : String} (fresh : name ∉ names)
    (js : List Json) : valuesOf name (membersInOrder names js) = [] := by
  induction names generalizing js with
  | nil => rfl
  | cons n names ih =>
    cases js with
    | nil => rfl
    | cons j js =>
      simp only [List.mem_cons, not_or] at fresh
      have other : (some n, j).1 ≠ some name := fun same => fresh.1 (Option.some.inj same).symm
      exact (valuesOf_cons_of_ne _ other).trans (ih fresh.2 js)

/-- An array is read like the object of its items, under the names of the
fields in order. -/
theorem readInOrder_eq_ok (distinct : fs.names.Nodup) (js : List Json) :
    fs.readInOrder js = .ok xs ↔
      js.length ≤ fs.names.length ∧ fs.Gives (membersInOrder fs.names js) xs := by
  induction fs generalizing js with
  | nil =>
    cases js with
    | nil => exact iff_of_true rfl ⟨Nat.le_refl 0, trivial⟩
    | cons j js => exact iff_of_false nofun fun h => absurd h.1 (Nat.not_succ_le_zero _)
  | cons f fs ih =>
    obtain ⟨x, xs⟩ := xs
    obtain ⟨fresh, distinct⟩ := List.nodup_cons.mp distinct
    cases js with
    | nil =>
      rw [Fields.readInOrder_nil_eq_ok, ih distinct]
      simp only [membersInOrder, List.zipWith_nil_right, List.length_nil, Nat.zero_le, true_and,
        Fields.Gives, valuesOf_nil, f.takes_nil]
    | cons j js =>
      have first : membersInOrder (f.name :: fs.names) (j :: js) =
          (some f.name, j) :: membersInOrder fs.names js := rfl
      rw [Fields.readInOrder_cons_eq_ok, ih distinct, Fields.names, first, Fields.Gives,
        Fields.gives_cons_of_unknown fresh, valuesOf_cons_self, valuesOf_membersInOrder fresh,
        f.takes_singleton, List.length_cons, List.length_cons, Nat.add_le_add_iff_right,
        and_left_comm]

/-! ### The law -/

theorem FieldSpec.takes_perm {f : FieldSpec α} {js js' : List Json} (perm : js.Perm js') {x : α}
    (takes : f.Takes js x) : f.Takes js' x := by
  cases takes with
  | given read => exact List.singleton_perm.mp perm ▸ .given read
  | missing default => exact List.nil_perm.mp perm ▸ .missing default

theorem gives_perm (perm : ms.Perm ms') (gives : fs.Gives ms xs) : fs.Gives ms' xs := by
  induction fs with
  | nil => trivial
  | cons f fs ih =>
    obtain ⟨x, xs⟩ := xs
    exact ⟨FieldSpec.takes_perm (valuesOf_perm perm) gives.1, ih gives.2⟩

theorem takes_limit {f : FieldSpec α} (h : ∀ n j, Follows f.read (Json.limit n j) j) (n : Nat)
    {js : List Json} {x : α} (takes : f.Takes (js.map (Json.limit n)) x) : f.Takes js x := by
  match js, takes with
  | [], takes => exact takes
  | [j], takes => exact f.takes_singleton.mpr (h n j x (f.takes_singleton.mp takes))

theorem valuesOf_limit (n : Nat) (name : String) (ms : List (Option String × Json)) :
    valuesOf name (ms.map fun m => (m.1, Json.limit n m.2)) =
      (valuesOf name ms).map (Json.limit n) := by
  simp [valuesOf, List.filter_map, Function.comp_def]

theorem Agrees.gives_limit (h : Agrees es fs) (n : Nat)
    (gives : fs.Gives (ms.map fun m => (m.1, Json.limit n m.2)) xs) : fs.Gives ms xs := by
  induction h with
  | nil => trivial
  | cons _ value _ _ ih =>
    obtain ⟨x, xs⟩ := xs
    exact ⟨takes_limit value.limit n (valuesOf_limit n _ ms ▸ gives.1), ih gives.2⟩

theorem Agrees.readInOrder_limit (h : Agrees es fs) (n : Nat) {js : List Json}
    (read : fs.readInOrder (js.map (Json.limit n)) = .ok xs) : fs.readInOrder js = .ok xs := by
  induction h generalizing js with
  | nil =>
    cases js with
    | nil => exact read
    | cons => cases read
  | cons _ value _ _ ih =>
    obtain ⟨x, xs⟩ := xs
    cases js with
    | nil => exact read
    | cons j js =>
      rw [List.map_cons, Fields.readInOrder_cons_eq_ok] at read
      exact (Fields.readInOrder_cons_eq_ok ..).mpr ⟨value.limit n j x read.1, ih read.2⟩

theorem skips_cons {names : List String} {k : Option String} :
    Skips names ((k, j) :: ms) ↔
      (∃ name, k = some name ∧ (name ∉ names → j.isIntact = true)) ∧ Skips names ms :=
  List.forall_mem_cons

theorem skips_cons_some {names : List String} {name : String} :
    Skips names ((some name, j) :: ms) ↔
      (name ∉ names → j.isIntact = true) ∧ Skips names ms := by
  simp [skips_cons]

theorem skips_membersInOrder (names : List String) (js : List Json) :
    Skips names (membersInOrder names js) := by
  intro m hm
  obtain ⟨name, known, j, -, rfl⟩ := of_mem_membersInOrder hm
  exact ⟨name, rfl, fun unknown => absurd known unknown⟩

/-- A record that agrees with the table of a struct is read faithfully. -/
theorem Agrees.read_faithful {s : Struct} (agree : Agrees s.entries fs) :
    Faithful (.struct s) (fs.read false) where
  change change xs read := by
    have names : s.names = fs.names := agree.names
    have distinct : fs.names.Nodup := names ▸ s.names_nodup
    have unseen {name : String} {j : Json} {ms : List (Option String × Json)}
        (unknown : name ∉ s.names) : fs.Gives ((some name, j) :: ms) xs ↔ fs.Gives ms xs :=
      Fields.gives_cons_of_unknown (names ▸ unknown)
    have objects {ms ms' : List (Option String × Json)} (read : fs.read false (.object ms) = .ok xs)
        (skips : Skips fs.names ms → Skips fs.names ms')
        (gives : fs.Gives ms xs → fs.Gives ms' xs) :
        fs.read false (.object ms') = .ok xs := by
      obtain ⟨before, given⟩ := (Fields.read_object_eq_ok distinct).mp read
      exact (Fields.read_object_eq_ok distinct).mpr ⟨skips before, gives given⟩
    cases change with
    | reordered perm =>
      exact objects read (fun skips m hm => skips m (perm.symm.subset hm)) (gives_perm perm)
    | member change =>
      refine objects read (fun skips => ?_) fun gives => ?_
      · obtain ⟨⟨name, rfl, intact⟩, others⟩ := skips_cons.mp skips
        exact skips_cons_some.mpr
          ⟨fun unknown => pervasive_intact.change change (intact unknown), others⟩
      · refine agree.gives_member (fun e known same => ?_) gives
        rwa [← same, memberShape_eq known] at change
    | position change =>
      refine agree.readInOrder_position (fun e known => ?_) read
      rwa [Struct.itemShape, known] at change
    | added unknown plain =>
      refine objects read (fun skips => ?_) (unseen unknown).mpr
      exact skips_cons_some.mpr ⟨fun _ => pervasive_intact.plain plain, skips⟩
    | removed unknown =>
      exact objects read (fun skips => (skips_cons_some.mp skips).2) (unseen unknown).mp
    | @written _ e _ _ known default missing =>
      have own : e.name ∈ fs.names := names ▸ List.mem_map_of_mem known
      refine objects read (fun skips => skips_cons_some.mpr ⟨absurd own, skips⟩) fun gives => ?_
      exact (agree.gives_default distinct known default).mpr ⟨gives, missing_iff.mp missing⟩
    | left known default =>
      refine objects read (fun skips => (skips_cons_some.mp skips).2) fun gives => ?_
      exact ((agree.gives_default distinct known default).mp gives).1
    | @positioned _ js fits =>
      obtain ⟨-, gives⟩ := (Fields.read_object_eq_ok distinct).mp read
      rw [names] at gives
      refine (readInOrder_eq_ok distinct js).mpr ⟨?_, gives⟩
      rwa [← names, Struct.names, List.length_map]
    | @named _ js =>
      obtain ⟨-, gives⟩ := (readInOrder_eq_ok distinct js).mp read
      rw [names]
      exact (Fields.read_object_eq_ok distinct).mpr ⟨skips_membersInOrder fs.names js, gives⟩
  limit := by
    have distinct : fs.names.Nodup := agree.names ▸ s.names_nodup
    refine follows_limit (by simp [Fields.read]) (by simp [Fields.read])
      (fun n js xs => agree.readInOrder_limit n) fun n ms xs read => ?_
    obtain ⟨skips, gives⟩ := (Fields.read_object_eq_ok distinct).mp read
    refine (Fields.read_object_eq_ok distinct).mpr ⟨fun m hm => ?_, agree.gives_limit n gives⟩
    obtain ⟨k, name, intact⟩ := skips _ (List.mem_map_of_mem hm)
    exact ⟨k, name, fun unknown => isIntact_limit n m.2 ▸ intact unknown⟩

theorem Faithful.record {s : Struct} (rec : Record α) (agree : Agrees s.entries rec.fields)
    (skips : rec.refusesUnknown = false) : Faithful (.struct s) rec.read := by
  have fields := agree.read_faithful.map rec.build
  rwa [← skips] at fields

end Records

/-! ## Members of a body -/

section Bodies

variable {ms : List (Option String × Json)}

/-- A member with its kind first is read by the reader for the kind, if no
other member names a kind. -/
theorem readMember_kind_eq_ok {kind : String} {m : Member} :
    readMember (.object ((some "kind", .string kind) :: ms)) = .ok m ↔
      some "kind" ∉ ms.map (·.1) ∧ ∃ r, memberReaders.lookup kind = some r ∧
        membersReadable ms = true ∧ r (.object ms) = .ok m := by
  rw [readMember_object_eq_ok, valuesOf_cons_self, others_cons_self]
  constructor
  · rintro ⟨k, r, values, found, readable, read⟩
    obtain ⟨same, none⟩ := List.cons.inj values
    cases same
    have single := missing_iff.mpr none
    rw [others_of_missing single] at readable read
    exact ⟨single, r, found, readable, read⟩
  · rintro ⟨single, r, found, readable, read⟩
    rw [missing_iff.mp single, others_of_missing single]
    exact ⟨kind, r, rfl, found, readable, read⟩

/-- All of a member is read before its kind is known, so nothing in it can
be unreadable. -/
theorem isReadable_of_readMember {j : Json} {x : Member} (read : readMember j = .ok x) :
    j.isReadable = true := by
  cases j with
  | array js =>
    obtain ⟨k, r, js, rfl, -, readable, -⟩ := readMember_array_eq_ok.mp read
    simpa [isReadable, itemsReadable] using readable
  | object ms =>
    obtain ⟨k, r, kind, -, readable, -⟩ := readMember_object_eq_ok.mp read
    rw [isReadable, membersReadable_iff]
    intro m hm
    by_cases own : m.1 = some "kind"
    · have value : m.2 ∈ valuesOf "kind" ms :=
        List.mem_map_of_mem (List.mem_filter.mpr ⟨hm, decide_eq_true own⟩)
      rw [kind, List.mem_singleton] at value
      rw [own, value]
      exact ⟨rfl, rfl⟩
    · exact (membersReadable_iff _).mp readable m
        (List.mem_filter.mpr ⟨hm, decide_eq_true own⟩)
  | _ => cases read

/-- Members are read faithfully if the readers for their kinds are. -/
theorem Faithful.bodyMember (h : ∀ m ∈ memberReaders,
      ∃ s, bodyKinds.lookup m.1 = some s ∧ Faithful (.struct s) m.2) :
    Faithful .bodyMember readMember where
  change change m read := by
    cases change with
    | @reordered _ ms ms' perm =>
      obtain ⟨k, r, kind, found, readable, read⟩ := readMember_object_eq_ok.mp read
      have kind' : valuesOf "kind" ms' = [.string k] :=
        (List.singleton_perm.mp (kind ▸ valuesOf_perm perm)).symm
      obtain ⟨s, -, faithful⟩ := h _ (mem_of_lookup found)
      have rest : Change (.struct s) (.object (others "kind" ms)) (.object (others "kind" ms')) :=
        .reordered (others_perm perm)
      exact readMember_object_eq_ok.mpr ⟨k, r, kind', found,
        pervasive_readable.change rest readable, faithful.change rest m read⟩
    | body known single change =>
      obtain ⟨-, r, found, readable, read⟩ := readMember_kind_eq_ok.mp read
      obtain ⟨s, known', faithful⟩ := h _ (mem_of_lookup found)
      cases known.symm.trans known'
      exact readMember_kind_eq_ok.mpr ⟨single, r, found,
        pervasive_readable.change change readable, faithful.change change m read⟩
    | bodyItems known change =>
      obtain ⟨_, r, _, same, found, readable, read⟩ := readMember_array_eq_ok.mp read
      cases same
      obtain ⟨s, known', faithful⟩ := h _ (mem_of_lookup found)
      cases known.symm.trans known'
      exact readMember_array_eq_ok.mpr ⟨_, r, _, rfl, found,
        pervasive_readable.change change readable, faithful.change change m read⟩
  limit n j m read := by
    rwa [limit_of_isReadable (isReadable_of_readMember read)] at read

end Bodies

end ObjcDecl.Format
