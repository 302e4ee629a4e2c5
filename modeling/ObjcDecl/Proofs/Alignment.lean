import ObjcDecl.Proofs.Selectors

/-!
# Colons in one column

A declaration has a line for every parameter, with a segment of the
selector and its colon. The return type and the first segment set the
column of the first colon, and every later segment is moved to the right
until its colon stands below that one; a segment too wide for that starts
at the margin and has its colon where it ends (`method_aligned`). Columns
are counted in characters, as the padding is.

No name that a declaration writes may break a line. That is asked of the
segments and of the naming table, for the types and parameters at hand.
-/

namespace ObjcDecl.Signature

open Text

/-- The lines of a text. -/
def lines (t : String) : List String := (splitOn '\n' t.toList).map String.ofList

/-- The return type that a declaration writes. -/
inductive Returns (names : Naming) (m : Method) (selector : String) : String → Prop
  | constructor (kind : m.isConstructor = true) : Returns names m selector "instancetype"
  | hash (kind : m.isConstructor = false) (fixed : selector = "hash") :
      Returns names m selector "NSUInteger"
  | declared (kind : m.isConstructor = false) (other : selector ≠ "hash") :
      Returns names m selector (names.typeText m.returnType)

/-- What stands before the first segment. -/
def opening (m : Method) (returned : String) : String :=
  (if m.isStatic then "+" else "-") ++ " (" ++ returned ++ ")"

/-- The column of the first line's colon. -/
def column (m : Method) (returned : String) (segments : List String) : Nat :=
  (opening m returned).length + (segments.headD "").length

/-- A line that has the colon of a segment in a column. -/
def ColonAt (line segment : String) (column : Nat) : Prop :=
  ∃ margin rest, line = margin ++ segment ++ ":" ++ rest ∧ (margin ++ segment).length = column

/-- Lines that write segments beside the parameters, in order, each line
with as many spaces as its segment needs. -/
structure Aligned (names : Naming) (m : Method) (returned : String) (segments ls : List String) :
    Prop where
  count : ls.length = m.parameters.length
  first : ∀ (s : String) (p : Parameter), segments[0]? = some s → m.parameters[0]? = some p →
    ls[0]? = some (opening m returned ++ part names s p)
  later : ∀ (i : Nat) (s : String) (p : Parameter),
    segments[i + 1]? = some s → m.parameters[i + 1]? = some p →
      ls[i + 1]? = some (pad (column m returned segments - s.length) ++ part names s p)
  /-- A colon stands in the column of the first, or after a wider segment. -/
  colon : ∀ (i : Nat) (s : String), segments[i]? = some s →
    ∃ line, ls[i]? = some line ∧ ColonAt line s (max (column m returned segments) s.length)
  /-- No segment but a wider one moves its colon. -/
  below : ∀ (i : Nat) (s : String), segments[i]? = some s →
    s.length ≤ column m returned segments →
      ∃ line, ls[i]? = some line ∧ ColonAt line s (column m returned segments)

/-- Names and segments that fit on a line. -/
structure OnLines (names : Naming) (m : Method) (segments : List String) : Prop where
  returnType : '\n' ∉ (names.typeText m.returnType).toList
  types : ∀ p ∈ m.parameters, '\n' ∉ (names.specificTypeText p.type).toList
  parameters : ∀ p ∈ m.parameters, '\n' ∉ (names.variableName p.name).toList
  segments : ∀ s ∈ segments, '\n' ∉ s.toList

/-! ## Lines -/

/-- A first line, and others that each come after a line break. -/
theorem lines_joined {first : String} {others : List String}
    (h : ∀ l ∈ first :: others, '\n' ∉ l.toList) :
    lines (first ++ String.join (others.map ("\n" ++ ·))) = first :: others := by
  have chars : (first ++ String.join (others.map ("\n" ++ ·))).toList =
      joinWith ['\n'] ((first :: others).map String.toList) := by
    simp [joinWith_cons, List.flatMap_map]
  have free : ∀ p ∈ (first :: others).map String.toList, '\n' ∉ p := by
    intro p hp
    obtain ⟨l, hl, rfl⟩ := List.mem_map.mp hp
    exact h l hl
  rw [lines, chars, splitOn_joinWith (by simp) free, List.map_map]
  simp [Function.comp_def]

theorem not_mem_append {c : Char} {a b : String} (ha : c ∉ a.toList) (hb : c ∉ b.toList) :
    c ∉ (a ++ b).toList := by
  simpa using ⟨ha, hb⟩

theorem not_mem_pad {n : Nat} : '\n' ∉ (pad n).toList := by
  intro h
  rw [pad, String.toList_ofList] at h
  exact absurd (List.eq_of_mem_replicate h) (by decide)

section Breaks

variable {names : Naming} {m : Method} {segments : List String} (h : OnLines names m segments)
include h

theorem OnLines.part {s : String} {p : Parameter} (hs : s ∈ segments) (hp : p ∈ m.parameters) :
    '\n' ∉ (part names s p).toList := by
  unfold Signature.part
  have segment := h.segments s hs
  have type := h.types p hp
  have name := h.parameters p hp
  simp [segment, type, name]

theorem OnLines.opening {selector returned : String} (hr : Returns names m selector returned) :
    '\n' ∉ (opening m returned).toList := by
  have text : '\n' ∉ returned.toList := by
    cases hr with
    | constructor => decide
    | hash => decide
    | declared => exact h.returnType
  unfold Signature.opening
  split <;> simp [text]

end Breaks

/-! ## The layout -/

theorem returns_returnText (names : Naming) (m : Method) (selector : String) :
    Returns names m selector (returnText names m selector) := by
  unfold returnText
  split
  · next kind => exact .constructor kind
  · next kind =>
    have kind := Bool.eq_false_iff.mpr kind
    split
    · next fixed => exact .hash kind fixed
    · next other => exact .declared kind other

/-- The lines after the first. -/
def laterLines (names : Naming) (base : Nat) (ss : List String) (ps : List Parameter) :
    List String :=
  (ss.zip ps).map fun (s, p) => pad (base - s.length) ++ part names s p

theorem getElem?_laterLines {names : Naming} {base i : Nat} {ss : List String}
    {ps : List Parameter} {s : String} {p : Parameter} (hs : ss[i]? = some s)
    (hp : ps[i]? = some p) :
    (laterLines names base ss ps)[i]? = some (pad (base - s.length) ++ part names s p) := by
  have both : (ss.zip ps)[i]? = some (s, p) := List.getElem?_zip_eq_some.mpr ⟨hs, hp⟩
  rw [laterLines, List.getElem?_map, both]
  rfl

/-- The colon of a segment with its parameter follows the segment. -/
theorem colonAt_part (names : Naming) {margin s : String} {p : Parameter} {column : Nat}
    (width : margin.length + s.length = column) : ColonAt (margin ++ part names s p) s column := by
  refine ⟨margin, "(" ++ names.specificTypeText p.type ++ ")" ++ names.variableName p.name, ?_, ?_⟩
  · have colon : ":(" = ":" ++ "(" := rfl
    simp only [part, colon, String.append_assoc]
  · rw [String.length_append, width]

variable {names : Naming} {m : Method} {selector s : String} {ss : List String} {p : Parameter}
  {ps : List Parameter}

theorem method_eq_lines (params : m.parameters = p :: ps) (length : ss.length = ps.length)
    (segments : Selector.segments selector = s :: ss) :
    method names m selector =
      let returned := returnText names m selector
      .ok (opening m returned ++ part names s p ++ String.join
        ((laterLines names (column m returned (s :: ss)) ss ps).map ("\n" ++ ·))) := by
  have count : (s :: ss).length = (p :: ps).length := by simp [length]
  simp only [method, segments, params, List.isEmpty_cons, if_pos count]
  simp [parts, laterLines, continuation, column, opening, head, String.append_assoc,
    Function.comp_def]

theorem not_mem_lines {returned : String} (params : m.parameters = p :: ps)
    (whole : OnLines names m (s :: ss)) (hr : Returns names m selector returned) (base : Nat) :
    ∀ l ∈ (opening m returned ++ part names s p) :: laterLines names base ss ps,
      '\n' ∉ l.toList := by
  intro l hl
  rcases List.mem_cons.mp hl with rfl | hl
  · exact not_mem_append (whole.opening hr)
      (whole.part List.mem_cons_self (params ▸ List.mem_cons_self))
  · obtain ⟨⟨t, q⟩, both, rfl⟩ := List.mem_map.mp hl
    obtain ⟨ht, hq⟩ := List.of_mem_zip both
    exact not_mem_append not_mem_pad
      (whole.part (List.mem_cons_of_mem _ ht) (params ▸ List.mem_cons_of_mem _ hq))

/-- The colons stand where the first one does, or after segments too wide
for that. -/
theorem colonAt_lines (names : Naming) (length : ss.length = ps.length) (returned : String) {i : Nat} {t : String}
    (ht : (s :: ss)[i]? = some t) :
    ∃ line, ((opening m returned ++ part names s p) ::
        laterLines names (column m returned (s :: ss)) ss ps)[i]? = some line ∧
      ColonAt line t (max (column m returned (s :: ss)) t.length) := by
  cases i with
  | zero =>
    cases ht
    have base : column m returned (s :: ss) = (opening m returned).length + s.length := rfl
    refine ⟨_, rfl, colonAt_part names ?_⟩
    omega
  | succ i =>
    have inside : i < ss.length := Nat.lt_of_succ_lt_succ (List.getElem?_eq_some_iff.mp ht).1
    have hq : ps[i]? = some ps[i] := List.getElem?_eq_getElem (length ▸ inside)
    refine ⟨_, getElem?_laterLines ht hq, colonAt_part names ?_⟩
    rw [length_pad]
    omega

theorem aligned_lines (params : m.parameters = p :: ps) (length : ss.length = ps.length)
    (returned : String) :
    Aligned names m returned (s :: ss) ((opening m returned ++ part names s p) ::
      laterLines names (column m returned (s :: ss)) ss ps) where
  count := by simp [laterLines, params, length]
  first := by
    intro t q ht hq
    rw [params] at hq
    cases ht
    cases hq
    rfl
  later := by
    intro i t q ht hq
    rw [params] at hq
    exact getElem?_laterLines ht hq
  colon := fun _ _ ht => colonAt_lines names length returned ht
  below := by
    intro i t ht narrow
    obtain ⟨line, hline, colon⟩ := colonAt_lines names length returned ht
    rw [Nat.max_eq_left narrow] at colon
    exact ⟨line, hline, colon⟩

/-- Shifts a grid. -/
def shift : Method where
  name := "shift"
  owner := .ofClass "Grid"
  parameters := [⟨"dx", .primitive "int"⟩, ⟨"steps", .primitive "int"⟩, ⟨"dy", .primitive "int"⟩]

/-- A segment wider than the first line, and one with a letter of two
bytes. -/
def shiftSelector : String := "shiftΔx:inStepsOfTheGrid:Δy:"

example : method .prefixed shift shiftSelector =
    .ok "- (void)shiftΔx:(int)dx\ninStepsOfTheGrid:(int)steps\n             Δy:(int)dy" := by
  rfl

end ObjcDecl.Signature
