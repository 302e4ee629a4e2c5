import ObjcDecl.Proofs.Selectors

/-!
# The selector that a declaration declares

A declaration writes the segments of a selector beside the parameters, each
with a colon after it, and so declares a selector itself: the segments with
their colons in a row. For a selector that fits the parameters this is the
selector it was asked for, and other selectors are refused, with one
exception (`declaresExactly_iff`). The segments are counted, and what
follows the last colon counts as a segment, so a selector that lacks only
its last colon is let through and declared with the colon.

The cases follow the form of a selector, segments that end in a colon and
what follows the last one (`Selector.Row`). Every text has this form, in
one way.
-/

namespace ObjcDecl

open Text

namespace Selector

/-- A selector taken apart at its colons: the segments that end in one, and
what follows the last. -/
structure Row where
  ended : List String
  rest : String
  endedFree : ∀ s ∈ ended, ColonFree s
  restFree : ColonFree rest

namespace Row

/-- The selector that is taken apart. -/
def text (r : Row) : String := String.join (r.ended.map (· ++ ":")) ++ r.rest

theorem colonFree (r : Row) : ∀ s ∈ r.ended ++ [r.rest], ColonFree s := by
  intro s hs
  rcases List.mem_append.mp hs with hs | hs
  · exact r.endedFree s hs
  · exact List.mem_singleton.mp hs ▸ r.restFree

/-- What lies between the colons, from the front to the end. -/
def pieces (r : Row) : List (List Char) := (r.ended ++ [r.rest]).map String.toList

theorem toList_text (r : Row) : r.text.toList = joinWith [':'] r.pieces := by
  simp [text, pieces, joinWith_concat, List.flatMap_map]

theorem splitOn_text (r : Row) : splitOn ':' r.text.toList = r.pieces := by
  rw [toList_text]
  refine splitOn_joinWith (by simp [pieces]) fun p hp => ?_
  obtain ⟨s, hs, rfl⟩ := List.mem_map.mp hp
  exact r.colonFree s hs

/-- A selector is taken apart in one way. -/
theorem eq_of_text_eq {r r' : Row} (h : r.text = r'.text) :
    r.ended = r'.ended ∧ r.rest = r'.rest := by
  have same : r.pieces = r'.pieces := by rw [← splitOn_text, h, splitOn_text]
  exact List.append_singleton_inj.mp
    ((List.map_inj_right fun _ _ => String.toList_inj.mp).mp same)

end Row

/-- Every selector can be taken apart. -/
theorem exists_row (selector : String) : ∃ r : Row, r.text = selector := by
  have free : ∀ p ∈ splitOn ':' selector.toList, ':' ∉ p := by
    intro p hp hc
    exact absurd (not_isSep_of_mem_splitWhere hp ':' hc) (by decide)
  have whole := joinWith_splitOn ':' selector.toList
  obtain ⟨init, last, pieces⟩ : ∃ init last, splitOn ':' selector.toList = init ++ [last] :=
    ⟨_, _, (List.dropLast_concat_getLast (splitWhere_ne_nil _ _)).symm⟩
  rw [pieces] at free whole
  refine ⟨⟨init.map String.ofList, String.ofList last, ?_, ?_⟩, ?_⟩
  · intro s hs
    obtain ⟨p, hp, rfl⟩ := List.mem_map.mp hs
    exact colonFree_ofList (free p (List.mem_append_left _ hp))
  · exact colonFree_ofList (free last (by simp))
  · apply String.toList_injective
    rw [Row.toList_text, ← whole]
    simp [Row.pieces, Function.comp_def]

/-! ## Segments of a row -/

/-- A selector without the colon of its last segment, which else would fit
`n` parameters. -/
def Unended (n : Nat) (selector : String) : Prop :=
  ∃ r : Row, r.text = selector ∧ r.rest ≠ "" ∧ r.ended.length + 1 = n

namespace Row

variable (r : Row)

/-- What follows the last colon is a segment, unless it is empty. -/
theorem segments_text : segments r.text = if r.rest = "" then r.ended else r.ended ++ [r.rest] := by
  have chars : r.text.toList =
      ((r.ended.map String.toList).flatMap fun l => l ++ [':']) ++ r.rest.toList := by
    simp [text, List.flatMap_map]
  have free : ∀ l ∈ r.ended.map String.toList, ':' ∉ l := by
    intro l hl
    obtain ⟨s, hs, rfl⟩ := List.mem_map.mp hl
    exact r.endedFree s hs
  rw [segments, chars, splitTerminated_flatMap_append free]
  by_cases rest : r.rest = ""
  · simp [rest, splitTerminated, Function.comp_def]
  · have rest' : r.rest.toList ≠ [] := fun h => rest (String.toList_eq_nil_iff.mp h)
    rw [splitTerminated_of_not_mem rest' r.restFree, if_neg rest]
    simp [Function.comp_def]

/-- A selector ends in a colon if a segment ends it. -/
theorem endsIn_text : endsIn ':' r.text = true ↔ r.rest = "" ∧ r.ended ≠ [] := by
  by_cases rest : r.rest = ""
  · rcases List.eq_nil_or_concat r.ended with none | ⟨init, last, some⟩
    · simp [endsIn, text, rest, none]
    · simp [endsIn, text, rest, some]
  · rcases List.eq_nil_or_concat r.rest.toList with none | ⟨init, last, some⟩
    · exact absurd (String.toList_eq_nil_iff.mp none) rest
    · have noColon : last ≠ ':' := by
        rintro rfl
        exact r.restFree (by simp [some])
      simp [endsIn, text, some, rest, noColon]

theorem fits_zero_text : Fits 0 r.text ↔ r.ended = [] ∧ r.rest ≠ "" := by
  rw [fits_zero]
  cases ended : r.ended with
  | nil => simp [text, ended, r.restFree]
  | cons s ss => simp [text, ended, ColonFree]

theorem fits_succ_text {n : Nat} : Fits (n + 1) r.text ↔ r.ended.length = n + 1 ∧ r.rest = "" := by
  rw [fits_succ]
  constructor
  · rintro ⟨segments, length, free, whole⟩
    let row : Row := ⟨segments, "", free, List.not_mem_nil⟩
    have same : r.text = row.text := by simpa [row, text] using whole
    obtain ⟨ended, rest⟩ := eq_of_text_eq same
    exact ⟨ended ▸ length, rest⟩
  · rintro ⟨length, rest⟩
    exact ⟨r.ended, length, r.endedFree, by simp [text, rest]⟩

theorem unended_text {n : Nat} : Unended n r.text ↔ r.rest ≠ "" ∧ r.ended.length + 1 = n := by
  constructor
  · rintro ⟨r', same, rest, length⟩
    obtain ⟨hended, hrest⟩ := eq_of_text_eq same
    exact ⟨hrest ▸ rest, hended ▸ length⟩
  · rintro ⟨rest, length⟩
    exact ⟨r, rfl, rest, length⟩

end Row

/-- A selector is a name if it has a single segment and does not end in a
colon. -/
theorem single_segment_iff {selector : String} :
    ((segments selector).length = 1 ∧ endsIn ':' selector = false) ↔ Fits 0 selector := by
  obtain ⟨r, rfl⟩ := exists_row selector
  rw [r.fits_zero_text, r.segments_text, ← Bool.not_eq_true, r.endsIn_text]
  by_cases rest : r.rest = ""
  · rw [if_pos rest]
    constructor
    · rintro ⟨single, unended⟩
      have ended : r.ended ≠ [] := by
        intro none
        simp [none] at single
      exact absurd ⟨rest, ended⟩ unended
    · rintro ⟨-, some⟩
      exact absurd rest some
  · simp [rest]

/-- The segments are counted right, but for the last colon. -/
theorem length_segments_iff {n : Nat} {selector : String} :
    (segments selector).length = n + 1 ↔ Fits (n + 1) selector ∨ Unended (n + 1) selector := by
  obtain ⟨r, rfl⟩ := exists_row selector
  rw [r.fits_succ_text, r.unended_text, r.segments_text]
  by_cases rest : r.rest = ""
  · simp [rest]
  · simp [rest]

/-- A selector that fits lacks no colon. -/
theorem Unended.not_fits {n : Nat} {selector : String} (h : Unended n selector) :
    ¬ Fits n selector := by
  obtain ⟨r, rfl, rest, length⟩ := h
  intro fits
  rw [← length] at fits
  exact rest (r.fits_succ_text.mp fits).2

end Selector

/-! ## Declarations -/

namespace Signature

variable (names : Naming)

/-- Segments beside their parameters, each pair but the first after a line
break and spaces. -/
inductive Rows : List String → List Parameter → String → Prop
  | last (s : String) (p : Parameter) : Rows [s] [p] (part names s p)
  | next (s : String) (p : Parameter) (spaces : Nat) {ss : List String} {ps : List Parameter}
      {t : String} (rest : Rows ss ps t) :
      Rows (s :: ss) (p :: ps) (part names s p ++ "\n" ++ pad spaces ++ t)

/-- The selector that a declaration declares: its only segment if there are
no parameters, else the segments beside them, each with its colon. -/
inductive Declares (m : Method) (head : String) : String → String → Prop
  | bare {s : String} (none : m.parameters = []) (free : ColonFree s) :
      Declares m head (head ++ s) s
  | rows {ss : List String} {t : String} (free : ∀ s ∈ ss, ColonFree s)
      (rows : Rows names ss m.parameters t) :
      Declares m head (head ++ t) (String.join (ss.map (· ++ ":")))

/-- A declaration comes about for the selectors that fit, and declares no
other selector. -/
structure DeclaresExactly (m : Method) (selector : String) : Prop where
  returns : (∃ t, method names m selector = .ok t) ↔
    Selector.Fits m.parameters.length selector
  declared : ∀ t, method names m selector = .ok t →
    Declares names m (head names m selector) t selector

/-- The fault of a selector that does not suit the parameters. -/
def refusal (m : Method) (selector : String) : Fault :=
  if m.parameters.isEmpty then .selectorNotSingle selector m.name
  else .arityMismatch selector m.name (Selector.segments selector).length m.parameters.length

theorem rows_continuations (base : Nat) (s : String) (p : Parameter) {ss : List String}
    {ps : List Parameter} (length : ss.length = ps.length) :
    Rows names (s :: ss) (p :: ps) (part names s p ++
      String.join ((ss.zip ps).map fun (t, q) => continuation names base t q)) := by
  induction ss generalizing s p ps with
  | nil =>
    cases ps with
    | nil => simpa using Rows.last s p
    | cons q qs => cases length
  | cons t ts ih =>
    cases ps with
    | nil => cases length
    | cons q qs =>
      have rest := ih t q (Nat.succ.inj length)
      rw [List.zip_cons_cons, List.map_cons, String.join_cons]
      simpa only [continuation, String.append_assoc] using Rows.next s p (base - t.length) rest

/-- As many segments as parameters are written beside them. -/
theorem method_of_segments {m : Method} {selector : String} {ss : List String}
    (segments : Selector.segments selector = ss) (some : m.parameters ≠ [])
    (length : ss.length = m.parameters.length) (free : ∀ s ∈ ss, ColonFree s) :
    ∃ t, method names m selector = .ok t ∧
      Declares names m (head names m selector) t (String.join (ss.map (· ++ ":"))) := by
  refine ⟨_, by simp only [method, segments]; rw [if_neg (by simpa using some), if_pos length], ?_⟩
  refine .rows free ?_
  cases params : m.parameters with
  | nil => exact absurd params some
  | cons p ps =>
    rw [params] at length
    cases ss with
    | nil => cases length
    | cons s ss => exact rows_continuations names _ s p (Nat.succ.inj length)

theorem method_of_fits {m : Method} {selector : String}
    (h : Selector.Fits m.parameters.length selector) :
    ∃ t, method names m selector = .ok t ∧
      Declares names m (head names m selector) t selector := by
  by_cases none : m.parameters = []
  · rw [none] at h
    obtain ⟨nonempty, free⟩ := Selector.fits_zero.mp h
    have noColon := (Selector.single_segment_iff.mpr h).2
    refine ⟨head names m selector ++ selector, ?_, .bare none free⟩
    simp [method, none, noColon, Selector.segments_of_colonFree nonempty free]
  · obtain ⟨n, length⟩ := Nat.exists_eq_succ_of_ne_zero (mt List.length_eq_zero_iff.mp none)
    rw [length] at h
    obtain ⟨segments, count, free, rfl⟩ := Selector.fits_succ.mp h
    exact method_of_segments names (Selector.segments_join free) none (count.trans length.symm) free

/-- A method can be declared under a selector that fits its parameters. -/
theorem exists_method {m : Method} {selector : String}
    (h : Selector.Fits m.parameters.length selector) : ∃ t, method names m selector = .ok t :=
  (method_of_fits names h).imp fun _ written => written.1

/-- The colon that a selector lacks is written nevertheless. -/
theorem method_of_unended {m : Method} {selector : String}
    (h : Selector.Unended m.parameters.length selector) :
    ∃ t, method names m selector = .ok t ∧
      Declares names m (head names m selector) t (selector ++ ":") := by
  obtain ⟨r, rfl⟩ := Selector.exists_row selector
  obtain ⟨rest, length⟩ := r.unended_text.mp h
  have some : m.parameters ≠ [] := by
    intro none
    rw [none] at length
    cases length
  have segments : Selector.segments r.text = r.ended ++ [r.rest] := by
    rw [r.segments_text, if_neg rest]
  have whole : String.join ((r.ended ++ [r.rest]).map (· ++ ":")) = r.text ++ ":" := by
    simp [Selector.Row.text, String.append_assoc]
  have written := method_of_segments names segments some (by simpa using length) r.colonFree
  rwa [whole] at written

/-- No other selector suits the parameters. -/
theorem method_of_neither {m : Method} {selector : String}
    (closed : ¬ Selector.Fits m.parameters.length selector)
    (unended : ¬ Selector.Unended m.parameters.length selector) :
    method names m selector = .error (refusal m selector) := by
  by_cases none : m.parameters = []
  · rw [none] at closed
    have refused := mt Selector.single_segment_iff.mp closed
    simp only [method, refusal, none, List.isEmpty_nil, if_true, if_neg refused]
  · obtain ⟨n, length⟩ := Nat.exists_eq_succ_of_ne_zero (mt List.length_eq_zero_iff.mp none)
    have refused : (Selector.segments selector).length ≠ m.parameters.length := by
      rw [length] at closed unended ⊢
      intro same
      rcases Selector.length_segments_iff.mp same with fits | lacking
      · exact closed fits
      · exact unended lacking
    have some : ¬ m.parameters.isEmpty = true := by simpa using none
    simp only [method, refusal, if_neg some, if_neg refused]

/-- A declaration is written for the selectors that fit and declares them.
One more kind of selector is let through, that without its last colon, and
the declaration adds the colon. -/
theorem declaresExactly_iff (m : Method) (selector : String) :
    (DeclaresExactly names m selector ↔ ¬ Selector.Unended m.parameters.length selector) ∧
      (Selector.Unended m.parameters.length selector →
        ∃ t, method names m selector = .ok t ∧
          Declares names m (head names m selector) t (selector ++ ":")) ∧
      (¬ Selector.Fits m.parameters.length selector →
        ¬ Selector.Unended m.parameters.length selector →
        method names m selector = .error (refusal m selector)) := by
  refine ⟨⟨?_, ?_⟩, method_of_unended names, method_of_neither names⟩
  · intro declared unended
    obtain ⟨t, written, -⟩ := method_of_unended names unended
    exact unended.not_fits (declared.returns.mp ⟨t, written⟩)
  · intro ended
    by_cases fits : Selector.Fits m.parameters.length selector
    · obtain ⟨t, written, declares⟩ := method_of_fits names fits
      refine ⟨⟨fun _ => fits, fun _ => ⟨t, written⟩⟩, fun u hu => ?_⟩
      rw [written] at hu
      cases hu
      exact declares
    · have refused := method_of_neither names fits ended
      refine ⟨⟨fun ⟨u, hu⟩ => ?_, fun h => absurd h fits⟩, fun u hu => ?_⟩
      · rw [refused] at hu
        cases hu
      · rw [refused] at hu
        cases hu

/-- Puts a value under a key. -/
def put : Method where
  name := "put"
  owner := .ofClass "Bag"
  parameters := [⟨"key", .string⟩, ⟨"value", .named .rootObject "java.lang.Object"⟩]

/-- `putKey:value` is let through for two parameters. -/
theorem not_declaresExactly_put : ¬ DeclaresExactly .prefixed put "putKey:value" := by
  have unended : Selector.Unended put.parameters.length "putKey:value" :=
    ⟨⟨["putKey"], "value", by decide, by decide⟩, rfl, by decide, rfl⟩
  intro declared
  obtain ⟨t, written, -⟩ := method_of_unended .prefixed unended
  exact unended.not_fits (declared.returns.mp ⟨t, written⟩)

/-- It is written like the selector with both colons. -/
example : method .prefixed put "putKey:value" = method .prefixed put "putKey:value:" := by rfl

end Signature

end ObjcDecl
