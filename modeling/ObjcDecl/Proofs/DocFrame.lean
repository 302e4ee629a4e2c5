import ObjcDecl.Proofs.DocText
import ObjcDecl.Proofs.Visit

/-!
# A comment stays in its frame

A printed comment is a block of lines between `/**` and `*/`, each at the
level at which it was printed. The source cannot break out of the block:
no content line ends it, none begins another, and none is broken into two
(`doc_framed`). Its only opener is the one on the first line, its only
closer the one on the last.
-/

namespace ObjcDecl

namespace DocComment

open Text

/-- The lines of a comment at a margin. -/
def frame (margin : String) (content : List String) : List String :=
  (margin ++ "/**") :: content.map (fun l => margin ++ " " ++ l) ++ [margin ++ " */"]

/-- What a comment with some content adds to a text, and that nothing else
comes of it. -/
structure Framed (margin : String) (content : List String) (added : String) : Prop where
  /-- Every line of the frame is ended by a line feed. -/
  text : added = String.join ((frame margin content).map (· ++ "\n"))
  /-- There are no other line feeds. -/
  lines : splitTerminated '\n' added.toList = (frame margin content).map String.toList
  harmless : ∀ l ∈ content, '\r' ∉ l.toList ∧ '\n' ∉ l.toList ∧
    ¬"/*".toList <:+: l.toList ∧ ¬"*/".toList <:+: l.toList
  /-- What precedes an opener is the margin of the first line. -/
  opener : ∀ before after, added.toList = before ++ "/*".toList ++ after → before = margin.toList
  /-- What follows a closer is the end of the last line. -/
  closer : ∀ before after, added.toList = before ++ "*/".toList ++ after → after = ['\n']

/-! ## One opener and one closer -/

/-- A pair of different characters that is nowhere before and nowhere after
stands in one place only. -/
theorem eq_of_append_pair {a b : Char} (hab : a ≠ b) {x y before after : List Char}
    (hbefore : (x ++ [a]).IsChain fun c d => ¬(c = a ∧ d = b))
    (hafter : (b :: y).IsChain fun c d => ¬(c = a ∧ d = b))
    (h : x ++ a :: b :: y = before ++ a :: b :: after) : before = x ∧ after = y := by
  have apart {cs : List Char} (hcs : cs.IsChain fun c d => ¬(c = a ∧ d = b)) : ¬[a, b] <:+: cs :=
    fun part => by simpa using isChain_part hcs part
  rcases List.append_eq_append_iff.mp h with ⟨t, rfl, ht⟩ | ⟨t, rfl, ht⟩
  · cases t with
    | nil => simpa using ht.symm
    | cons c t =>
      -- a pair that starts later is in what follows the first character
      simp only [List.cons_append, List.cons.injEq] at ht
      exact absurd ⟨t, after, by simp [ht.2]⟩ (apart hafter)
  · cases t with
    | nil => simpa using ht
    | cons c t =>
      cases t with
      | nil =>
        simp only [List.cons_append, List.nil_append, List.cons.injEq] at ht
        exact absurd ht.2.1.symm hab
      | cons d t =>
        -- a pair that starts earlier is in what precedes the second character
        simp only [List.cons_append, List.cons.injEq] at ht
        obtain ⟨rfl, rfl, -⟩ := ht
        exact absurd ⟨before, t ++ [a], by simp⟩ (apart hbefore)

/-- The characters of the lines between the opener and `rest`. -/
def interior (margin : List Char) (content : List (List Char)) (rest : List Char) : List Char :=
  content.flatMap (fun l => margin ++ ' ' :: (l ++ ['\n'])) ++ (margin ++ ' ' :: rest)

/-- Spaces and line feeds keep the lines of a comment apart. -/
theorem isChain_interior {R : Char → Char → Prop} (space : ∀ x, R x ' ' ∧ R ' ' x)
    (feed : ∀ x, R x '\n' ∧ R '\n' x) {margin : List Char} {content : List (List Char)}
    {rest : List Char} (hm : margin.IsChain R) (hc : ∀ l ∈ content, l.IsChain R)
    (hr : rest.IsChain R) : (interior margin content rest).IsChain R := by
  induction content with
  | nil => exact isChain_append_cons (fun x => (space x).1) (fun y => (space y).2) hm hr
  | cons l content ih =>
    have below := ih fun k hk => hc k (List.mem_cons_of_mem _ hk)
    have line : interior margin (l :: content) rest =
        margin ++ ' ' :: (l ++ '\n' :: interior margin content rest) := by
      simp [interior]
    rw [line]
    exact isChain_append_cons (fun x => (space x).1) (fun y => (space y).2) hm
      (isChain_append_cons (fun x => (feed x).1) (fun y => (feed y).2) (hc l List.mem_cons_self)
        below)

/-! ## Margins -/

/-- A margin is made of spaces or tabs. -/
theorem blank_of_mem_margin {style : Indent} {n : Nat} {c : Char}
    (h : c ∈ (margin style.text n).toList) : c = ' ' ∨ c = '\t' := by
  have unit : (style.text.toList.all fun c => c == ' ' || c == '\t') = true := by
    unfold Indent.text
    split <;> decide
  obtain ⟨s, hs, hc⟩ : ∃ s ∈ List.replicate n style.text, c ∈ s.toList := by
    simpa [margin] using h
  rw [List.eq_of_mem_replicate hs] at hc
  simpa using List.all_eq_true.mp unit c hc

/-- Blanks are apart from each other, and any pair may be kept out of
them. -/
theorem isChain_of_blank {R : Char → Char → Prop} (apart : ∀ x y, Apart x y → R x y)
    {cs : List Char} (h : ∀ c ∈ cs, c = ' ' ∨ c = '\t') : cs.IsChain R := by
  refine (List.pairwise_of_forall_mem_list fun x hx y _ => apart x y ?_).isChain
  rcases h x hx with rfl | rfl <;> exact .of_left (by decide) (by decide)

/-! ## The frame -/

section Frame

variable {margin : String} {content : List String}

theorem toList_frame (margin : String) (content : List String) :
    (String.join ((frame margin content).map (· ++ "\n"))).toList =
      margin.toList ++ '/' :: '*' :: '*' :: '\n' ::
        interior margin.toList (content.map String.toList) ['*', '/', '\n'] := by
  simp [frame, interior, List.flatMap_map]

theorem interior_eq (margin : List Char) (content : List (List Char)) (rest : List Char) :
    interior margin content rest = interior margin content [] ++ rest := by
  simp [interior]

variable (blank : ∀ c ∈ margin.toList, c = ' ' ∨ c = '\t') (plain : ∀ l ∈ content, Plain l.toList)
include blank plain

theorem not_mem_of_mem_frame : ∀ l ∈ (frame margin content).map String.toList, '\n' ∉ l := by
  have margin : '\n' ∉ margin.toList := fun h => by simpa using blank _ h
  have content : ∀ l ∈ content, '\n' ∉ l.toList := fun l hl h => by
    simpa [isLineBreak] using (plain l hl).oneLine _ h
  simp only [frame, List.map_append, List.map_cons, List.map_map, List.map_nil, List.mem_append,
    List.mem_cons, List.mem_map]
  rintro _ ((rfl | ⟨l, hl, rfl⟩) | rfl | h)
  · simp [margin]
  · simp [margin, content l hl]
  · simp [margin]
  · simp at h

/-- The lines under the first one hold no pair that the content does not
hold. -/
theorem isChain_below {R : Char → Char → Prop} (apart : ∀ x y, Apart x y → R x y)
    {rest : List Char} (hr : rest.IsChain R) :
    (interior margin.toList (content.map String.toList) rest).IsChain R := by
  refine isChain_interior
    (fun x => ⟨apart _ _ (.of_right (by decide) (by decide)),
      apart _ _ (.of_left (by decide) (by decide))⟩)
    (fun x => ⟨apart _ _ (.of_right (by decide) (by decide)),
      apart _ _ (.of_left (by decide) (by decide))⟩)
    (isChain_of_blank apart blank) (fun l hl => ?_) hr
  obtain ⟨k, hk, rfl⟩ := List.mem_map.mp hl
  exact (plain k hk).apart.imp apart

theorem eq_margin_of_opener (before after : List Char)
    (h : margin.toList ++ '/' :: '*' :: '*' :: '\n' ::
      interior margin.toList (content.map String.toList) ['*', '/', '\n'] =
        before ++ '/' :: '*' :: after) : before = margin.toList := by
  have below : (interior margin.toList (content.map String.toList) ['*', '/', '\n']).IsChain
      fun x y => ¬(x = '/' ∧ y = '*') :=
    isChain_below blank plain (fun _ _ h => h.1) (by simp)
  have stars : ['*', '*'].IsChain fun x y => ¬(x = '/' ∧ y = '*') := by simp
  refine (eq_of_append_pair (by decide) ?_ ?_ h).1
  · exact (isChain_of_blank (fun _ _ h => h.1) blank).append (.singleton _) (by simp)
  · exact isChain_append_cons (c := '\n') (by simp) (by simp) stars below

theorem eq_feed_of_closer (before after : List Char)
    (h : margin.toList ++ '/' :: '*' :: '*' :: '\n' ::
      interior margin.toList (content.map String.toList) ['*', '/', '\n'] =
        before ++ '*' :: '/' :: after) : after = ['\n'] := by
  have below : (interior margin.toList (content.map String.toList) ['*']).IsChain
      fun x y => ¬(x = '*' ∧ y = '/') :=
    isChain_below blank plain (fun _ _ h => h.2) (by simp)
  have first : (margin.toList ++ ['/', '*', '*']).IsChain fun x y => ¬(x = '*' ∧ y = '/') := by
    refine (isChain_of_blank (fun _ _ h => h.2) blank).append (by simp) fun x hx y _ => ?_
    rcases blank x (List.mem_of_mem_getLast? hx) with rfl | rfl <;> simp
  have whole := isChain_append_cons (c := '\n') (by simp) (by simp) first below
  rw [interior_eq] at whole h
  refine (eq_of_append_pair (a := '*') (b := '/') (x := margin.toList ++ '/' :: '*' :: '*' ::
    '\n' :: interior margin.toList (content.map String.toList) []) (y := ['\n']) (by decide) ?_
    (by simp) (by simpa using h)).2
  simpa using whole

theorem framed : Framed margin content (String.join ((frame margin content).map (· ++ "\n"))) where
  text := rfl
  lines := by
    have feeds : (String.join ((frame margin content).map (· ++ "\n"))).toList =
        ((frame margin content).map String.toList).flatMap fun l => l ++ ['\n'] := by
      simp [List.flatMap_map]
    rw [feeds]
    exact splitTerminated_flatMap (not_mem_of_mem_frame blank plain)
  harmless l hl := by
    have part (a b : Char) (h : [a, b] <:+: l.toList) : Apart a b := by
      simpa using isChain_part (plain l hl).apart h
    refine ⟨fun h => ?_, fun h => ?_, fun h => ?_, fun h => ?_⟩
    · simpa [isLineBreak] using (plain l hl).oneLine _ h
    · simpa [isLineBreak] using (plain l hl).oneLine _ h
    · exact (part _ _ h).1 ⟨rfl, rfl⟩
    · exact (part _ _ h).2 ⟨rfl, rfl⟩
  opener before after h := by
    rw [toList_frame] at h
    exact eq_margin_of_opener blank plain before after (by simpa using h)
  closer before after h := by
    rw [toList_frame] at h
    exact eq_feed_of_closer blank plain before after (by simpa using h)

end Frame

theorem render_block (detect : SentenceDetector) (d : Doc) (unit : String) (level : Nat) :
    (block detect (some d)).render unit level =
      String.join ((frame (margin unit level) (lines detect d)).map (· ++ "\n")) := by
  simp [block, frame, Block.render, Line.render, String.append_assoc, Function.comp_def]

end DocComment

namespace Writer

/-- The writer with its levels in a style. -/
def withStyle (w : Writer) (style : Indent) : Writer :=
  { w with sink := { w.sink with unit := style.text } }

/-- The writer with a text added and nothing else changed. -/
def withAdded (w : Writer) (added : String) : Writer :=
  { w with sink := { w.sink with text := w.sink.text ++ added } }

end Writer

end ObjcDecl
