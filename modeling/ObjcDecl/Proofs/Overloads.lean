import ObjcDecl.Proofs.Selectors

/-!
# Selectors of overloads

Overloads have one name and differ in their parameters; the words for the
parameter types keep their selectors apart. The words can be read back from
a derived selector, as the name that precedes them is known and colons end
them. A selector that the object model fixes stands for a name and a number
of parameters and says nothing of their types: this loses nothing where
there are no parameters, and makes one selector of all the ways to compare
with `equals` (`selector_eq_iff`).
-/

namespace ObjcDecl

/-- Two methods, or two constructors, of one name without selectors of their
own. -/
structure Overloads (m m' : Method) : Prop where
  name : m.name = m'.name
  kind : m.isConstructor = m'.isConstructor
  derived : m.selector = none ∧ m'.selector = none
  /-- The types that the selectors speak of have names without colons. -/
  types : ∀ t ∈ m.parameters.map (·.type), t.ColonFree
  types' : ∀ t ∈ m'.parameters.map (·.type), t.ColonFree

theorem Overloads.symm {m m' : Method} (h : Overloads m m') : Overloads m' m where
  name := h.name.symm
  kind := h.kind.symm
  derived := h.derived.symm
  types := h.types'
  types' := h.types

/-- A method called `equals` that compares with one value. -/
structure Method.ComparesWithOne (m : Method) : Prop where
  normal : m.isConstructor = false
  name : m.name = "equals"
  single : m.parameters.length = 1

namespace Naming.Prefixed

/-- The words for the parameters of a method, in order. -/
def parameterWords (m : Method) : List String := (m.parameters.map (·.type)).map keyword

/-! ## The words in a derived selector -/

theorem wordSegments_injective : Function.Injective wordSegments := by
  intro ws vs h
  cases ws with
  | nil =>
    cases vs with
    | nil => rfl
    | cons v vs => cases h
  | cons w ws =>
    cases vs with
    | nil => cases h
    | cons v vs =>
      obtain ⟨first, others⟩ := List.cons.inj h
      rw [(String.append_right_inj _).mp first,
        (List.map_inj_right fun _ _ => (String.append_right_inj _).mp).mp others]

theorem segments_keywords {ts : List TypeRef} (h : ∀ t ∈ ts, t.ColonFree) :
    Selector.segments (keywords ts) = wordSegments (ts.map keyword) := by
  rw [keywords_eq_join, Selector.segments_join (colonFree_wordSegments (colonFree_words h))]

/-- What is written for the types of parameters tells the word for each. -/
theorem keywords_inj {ts us : List TypeRef} (hts : ∀ t ∈ ts, t.ColonFree)
    (hus : ∀ u ∈ us, u.ColonFree) : keywords ts = keywords us ↔ ts.map keyword = us.map keyword := by
  constructor
  · intro h
    apply wordSegments_injective
    rw [← segments_keywords hts, h, segments_keywords hus]
  · intro h
    rw [keywords_eq_join, h, ← keywords_eq_join]

/-- Derived selectors of overloads are the same for the same words only. -/
theorem derivedSelector_eq_iff {m m' : Method} (h : Overloads m m') :
    derivedSelector m = derivedSelector m' ↔ parameterWords m = parameterWords m' := by
  rw [derivedSelector, derivedSelector, h.name, h.kind, String.append_right_inj,
    keywords_inj h.types h.types', parameterWords, parameterWords]

/-! ## Fixed selectors -/

theorem fixedSelector_eq_some_iff {name s : String} {n : Nat} :
    fixedSelector name n = some s ↔
      (name = "hashCode" ∧ n = 0 ∧ s = "hash") ∨ (name = "toString" ∧ n = 0 ∧ s = "description") ∨
        (name = "equals" ∧ n = 1 ∧ s = "isEqual:") := by
  unfold fixedSelector
  split <;> simp_all [eq_comm]

/-- A fixed selector does not begin with the name of the method. -/
theorem fixedSelector_ne_append {name s : String} {n : Nat} (h : fixedSelector name n = some s)
    (rest : String) : s ≠ variableName name ++ rest := by
  intro whole
  have begins : (variableName name).toList <+: s.toList := by
    rw [whole, String.toList_append]
    exact List.prefix_append _ _
  rcases fixedSelector_eq_some_iff.mp h with ⟨rfl, -, rfl⟩ | ⟨rfl, -, rfl⟩ | ⟨rfl, -, rfl⟩ <;>
    exact absurd begins (by decide)

/-- The selector that the object model fixes for a method, if it does. -/
def fixed (m : Method) : Option String :=
  if m.isConstructor then none else fixedSelector m.name m.parameters.length

theorem selector_of_none {m : Method} (h : m.selector = none) :
    selector m = (fixed m).getD (derivedSelector m) := by
  rw [selector, h, fixed]
  by_cases kind : m.isConstructor = true
  · simp [kind]
  · simp [kind]

theorem fixed_eq_some {m : Method} {s : String} (h : fixed m = some s) :
    m.isConstructor = false ∧ fixedSelector m.name m.parameters.length = some s := by
  unfold fixed at h
  split at h
  · cases h
  · next kind => exact ⟨Bool.eq_false_iff.mpr kind, h⟩

theorem fixed_of_comparesWithOne {m : Method} (h : m.ComparesWithOne) :
    fixed m = some "isEqual:" := by
  rw [fixed, if_neg (by simp [h.normal]), h.name, h.single]
  rfl

/-- Where the object model fixes a selector there are no parameters, but for
a comparison. -/
theorem bare_or_compares {m : Method} {s : String} (h : fixed m = some s) :
    (m.parameters = [] ∧ m.name ≠ "equals") ∨ m.ComparesWithOne := by
  obtain ⟨normal, h⟩ := fixed_eq_some h
  rcases fixedSelector_eq_some_iff.mp h with ⟨name, none, -⟩ | ⟨name, none, -⟩ | ⟨name, single, -⟩
  · exact .inl ⟨List.length_eq_zero_iff.mp none, by simp [name]⟩
  · exact .inl ⟨List.length_eq_zero_iff.mp none, by simp [name]⟩
  · exact .inr ⟨normal, name, single⟩

/-- A fixed selector goes by the number of the parameters. -/
theorem fixed_eq_of_words {m m' : Method} (h : Overloads m m')
    (words : parameterWords m = parameterWords m') : fixed m = fixed m' := by
  have count : m.parameters.length = m'.parameters.length := by
    simpa [parameterWords] using congrArg List.length words
  rw [fixed, fixed, h.kind, h.name, count]

/-- A fixed selector is none that is derived for an overload. -/
theorem ne_derivedSelector {m m' : Method} (h : Overloads m m') {s : String}
    (hs : fixed m = some s) : s ≠ derivedSelector m' := by
  obtain ⟨normal, hs⟩ := fixed_eq_some hs
  rw [derivedSelector, ← h.kind, normal, ← h.name]
  exact fixedSelector_ne_append hs _

/-- Overloads with fixed selectors have no parameters, or both compare. -/
theorem words_eq_or_compare {m m' : Method} (h : Overloads m m') {s s' : String}
    (hs : fixed m = some s) (hs' : fixed m' = some s') :
    parameterWords m = parameterWords m' ∨ (m.ComparesWithOne ∧ m'.ComparesWithOne) := by
  rcases bare_or_compares hs with ⟨bare, other⟩ | compares
  · rcases bare_or_compares hs' with ⟨bare', -⟩ | compares'
    · left
      rw [parameterWords, parameterWords, bare, bare']
    · exact absurd (h.name.trans compares'.name) other
  · rcases bare_or_compares hs' with ⟨-, other'⟩ | compares'
    · exact absurd (h.name.symm.trans compares.name) other'
    · exact .inr ⟨compares, compares'⟩

/-- Overloads have one selector if their parameters have the same words one
by one, or if both compare with a single value, and else they have two. -/
theorem selector_eq_iff {m m' : Method} (h : Overloads m m') :
    selector m = selector m' ↔
      parameterWords m = parameterWords m' ∨ (m.ComparesWithOne ∧ m'.ComparesWithOne) := by
  rw [selector_of_none h.derived.1, selector_of_none h.derived.2]
  constructor
  · intro same
    cases hs : fixed m with
    | none =>
      cases hs' : fixed m' with
      | none =>
        rw [hs, hs'] at same
        exact .inl ((derivedSelector_eq_iff h).mp same)
      | some s' =>
        rw [hs, hs'] at same
        exact absurd same.symm (ne_derivedSelector h.symm hs')
    | some s =>
      cases hs' : fixed m' with
      | none =>
        rw [hs, hs'] at same
        exact absurd same (ne_derivedSelector h hs)
      | some s' => exact words_eq_or_compare h hs hs'
  · rintro (words | ⟨compares, compares'⟩)
    · rw [fixed_eq_of_words h words, (derivedSelector_eq_iff h).mpr words]
    · rw [fixed_of_comparesWithOne compares, fixed_of_comparesWithOne compares']
      rfl

/-- Puts a text into every row of a table. -/
def fillRows : Method where
  name := "fill"
  owner := .ofClass "Grid"
  parameters := [⟨"rows", .arrayOf (.arrayOf .string)⟩, ⟨"text", .string⟩]

/-- Puts a text into every cell of a row. -/
def fillCells : Method where
  name := "fill"
  owner := .ofClass "Grid"
  parameters := [⟨"cells", .arrayOf .string⟩, ⟨"text", .string⟩]

/-- The rows are an array of arrays, which the first word tells. -/
theorem selector_fillRows_ne :
    Overloads fillRows fillCells ∧ selector fillRows ≠ selector fillCells := by
  have overloads : Overloads fillRows fillCells := ⟨rfl, rfl, ⟨rfl, rfl⟩, by decide, by decide⟩
  refine ⟨overloads, fun same => ?_⟩
  rcases (selector_eq_iff overloads).mp same with words | ⟨compares, -⟩
  · exact absurd words (by decide)
  · exact absurd compares.name (by decide)

/-- Whether two values are equal. -/
def equalsObject : Method where
  name := "equals"
  owner := .ofClass "Note"
  returnType := .primitive "boolean"
  parameters := [⟨"other", .named .rootObject "java.lang.Object"⟩]

/-- Whether a value is written like a text. -/
def equalsText : Method where
  name := "equals"
  owner := .ofClass "Note"
  returnType := .primitive "boolean"
  parameters := [⟨"text", .string⟩]

/-- The two ways to compare share `isEqual:`, though their words differ. -/
theorem selector_equals_shared :
    Overloads equalsObject equalsText ∧ selector equalsObject = selector equalsText ∧
      parameterWords equalsObject ≠ parameterWords equalsText :=
  ⟨⟨rfl, rfl, ⟨rfl, rfl⟩, by decide, by decide⟩, rfl, by decide⟩

end Naming.Prefixed

end ObjcDecl
