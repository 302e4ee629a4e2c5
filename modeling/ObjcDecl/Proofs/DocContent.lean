import ObjcDecl.Emit.DocComment

/-!
# Nothing of a comment is lost but white space

`ink` is a text without its white space. The ink of a comment's lines is
the ink of its escaped texts and references in the order in which they
stand in the comment, with the marks of the tags around them (`ink_lines`):
no step on the way loses a piece, keeps one twice, or moves one. The steps
themselves add and remove white space alone: trimming, joining the lines
of a wrapped text, a space before each fragment, and a new line after the
first sentence, wherever the detector ends it.
-/

namespace ObjcDecl.DocComment

open Text Unicode

/-- A text without its white space. -/
def ink (cs : List Char) : List Char := cs.filter fun c => !isWhiteSpace c

/-! ## What comments say -/

/-- What a tag makes of the ink of its content: some tags are kept with
their names, some are dropped, and code is marked as such. -/
def markedInk (name : Option String) (content : List Char) : List Char :=
  match name with
  | none => content
  | some n =>
    if n ∈ keptTags then n.toList ++ content
    else if n ∈ droppedTags then []
    else if n = "@code" then "<code>".toList ++ content ++ "</code>".toList
    else content

mutual

/-- The ink of a fragment. -/
def fragmentInk : DocFragment → List Char
  | .text s => ink (escape s.toList)
  | .reference s => ink (escape s.toList)
  | .tag name fragments => markedInk name (contentInk fragments)

/-- The ink of fragments, in order. -/
def contentInk : List DocFragment → List Char
  | [] => []
  | f :: fs => fragmentInk f ++ contentInk fs

end

/-- The ink of a tag of the comment itself. A description in which a
sentence is found is marked as the brief. -/
def tagInk (detect : SentenceDetector) (t : DocTag) : List Char :=
  match t.name with
  | none =>
    if (detect (contentText t.fragments)).isSome then "@brief".toList ++ contentInk t.fragments
    else contentInk t.fragments
  | some n => markedInk (some n) (contentInk t.fragments)

/-! ## Steps that keep the ink -/

@[simp] theorem ink_nil : ink [] = [] := rfl

@[simp] theorem ink_append (xs ys : List Char) : ink (xs ++ ys) = ink xs ++ ink ys :=
  List.filter_append ..

theorem ink_cons_of_blank {c : Char} (h : isWhiteSpace c = true) (cs : List Char) :
    ink (c :: cs) = ink cs :=
  List.filter_cons_of_neg (by simp [h])

@[simp] theorem ink_cons_space (cs : List Char) : ink (' ' :: cs) = ink cs :=
  ink_cons_of_blank (by decide) cs

theorem ink_flatten (ps : List (List Char)) : ink ps.flatten = ps.flatMap ink := by
  rw [ink, List.filter_flatten, List.flatMap_def]
  rfl

theorem ink_trimStart (cs : List Char) : ink (trimStart cs) = ink cs := by
  induction cs with
  | nil => rfl
  | cons c cs ih =>
    unfold trimStart at ih ⊢
    rw [List.dropWhile_cons]
    split
    · next h => rw [ih, ink_cons_of_blank h]
    · rfl

theorem ink_reverse (cs : List Char) : ink cs.reverse = (ink cs).reverse := List.filter_reverse

theorem ink_trimEnd (cs : List Char) : ink (trimEnd cs) = ink cs := by
  rw [trimEnd, ink_reverse, ink_trimStart, ink_reverse, List.reverse_reverse]

@[simp] theorem ink_trim (cs : List Char) : ink (trim cs) = ink cs := by
  rw [trim, ink_trimEnd, ink_trimStart]

/-- The pieces between separators that are white space hold all the ink. -/
theorem ink_splitWhere {isSep : Char → Bool} (blank : ∀ c, isSep c = true → isWhiteSpace c = true)
    (cs : List Char) : (splitWhere isSep cs).flatMap ink = ink cs := by
  induction cs with
  | nil => rfl
  | cons c cs ih =>
    unfold splitWhere
    split
    · next h => rw [List.flatMap_cons, ih, ink_cons_of_blank (blank c h), ink_nil, List.nil_append]
    · cases hs : splitWhere isSep cs with
      | nil => exact absurd hs (splitWhere_ne_nil isSep cs)
      | cons p ps =>
        rw [hs, List.flatMap_cons] at ih
        change ink ([c] ++ p) ++ ps.flatMap ink = ink ([c] ++ cs)
        rw [ink_append, ink_append, List.append_assoc, ih]

theorem ink_joinWith_space (ps : List (List Char)) : ink (joinWith [' '] ps) = ps.flatMap ink := by
  induction ps with
  | nil => rfl
  | cons p ps ih =>
    cases ps with
    | nil => simp [joinWith]
    | cons q ps => simpa [joinWith] using ih

/-- Lines without content have no ink. -/
theorem flatMap_ink_filter (ps : List (List Char)) :
    (ps.filter fun p => !p.isEmpty).flatMap ink = ps.flatMap ink := by
  induction ps with
  | nil => rfl
  | cons p ps ih => cases p <;> simp [ih]

@[simp] theorem ink_joinLines (cs : List Char) : ink (joinLines cs) = ink cs := by
  have blank : ∀ c, isLineBreak c = true → isWhiteSpace c = true := by
    intro c h
    rcases (by simpa [isLineBreak] using h : c = '\r' ∨ c = '\n') with rfl | rfl <;> decide
  rw [joinLines, ink_joinWith_space, flatMap_ink_filter, List.flatMap_map]
  simpa using ink_splitWhere blank cs

/-! ## Fragments and tags -/

theorem ink_of_mem_keptTags {n : String} (h : n ∈ keptTags) : ink n.toList = n.toList := by
  have all : ∀ n ∈ keptTags, ink n.toList = n.toList := by decide
  exact all n h

theorem ink_tagText (name : Option String) (content : List Char) :
    ink (tagText name content) = markedInk name (ink content) := by
  have opened : ink "<code>".toList = "<code>".toList := by decide
  have closed : ink "</code>".toList = "</code>".toList := by decide
  cases name with
  | none => rfl
  | some n =>
    simp only [tagText, markedInk, List.contains_iff_mem]
    split
    · next h => rw [ink_append, ink_cons_space, ink_of_mem_keptTags h]
    · split
      · rfl
      · split
        · rw [ink_append, ink_append, opened, closed]
        · rfl

mutual

theorem ink_fragmentText : ∀ f : DocFragment, ink (fragmentText f) = fragmentInk f
  | .text s => ink_joinLines (escape s.toList)
  | .reference s => ink_joinLines (escape s.toList)
  | .tag name fragments => by
    rw [fragmentText, fragmentInk, ink_tagText, ink_trim, ink_spacedText fragments]

theorem ink_spacedText : ∀ fs : List DocFragment, ink (spacedText fs) = contentInk fs
  | [] => rfl
  | f :: fs => by
    rw [spacedText, contentInk, ink_append, ink_cons_space, ink_fragmentText f,
      ink_spacedText fs]

end

theorem ink_contentText (fs : List DocFragment) : ink (contentText fs) = contentInk fs := by
  rw [contentText, ink_trim, ink_spacedText]

/-! ## Lines -/

theorem flatMap_ink_lineOf (text : List Char) : (lineOf text).flatMap ink = ink text := by
  cases text with
  | nil => rfl
  | cons c cs => simp [lineOf]

/-- Wherever the first sentence ends, both parts of a description are
kept. -/
theorem flatMap_ink_descriptionLines (detect : SentenceDetector) (text : List Char) :
    (descriptionLines detect text).flatMap ink =
      if (detect text).isSome then "@brief".toList ++ ink text else ink text := by
  have brief : ink "@brief ".toList = "@brief".toList := by decide
  unfold descriptionLines
  cases detect text with
  | none => simp [flatMap_ink_lineOf]
  | some n =>
    have parts : ink (text.take n) ++ ink (text.drop n) = ink text := by
      rw [← ink_append, List.take_append_drop]
    simp only [List.flatMap_cons, flatMap_ink_lineOf, ink_append, ink_trim, brief,
      List.append_assoc, parts, Option.isSome_some, if_true]

theorem flatMap_ink_tagLines (detect : SentenceDetector) (t : DocTag) :
    (tagLines detect t).flatMap ink = tagInk detect t := by
  unfold tagLines tagInk
  cases t.name with
  | none => simp only [flatMap_ink_descriptionLines, ink_contentText]
  | some n => simp only [flatMap_ink_lineOf, ink_tagText, ink_contentText]

/-- White space apart, the lines of a comment say what its tags say, each
once and in order, whatever finds their sentences. -/
theorem ink_lines (detect : SentenceDetector) (d : Doc) :
    ink (String.join (lines detect d)).toList = d.tags.flatMap (tagInk detect) := by
  have texts : (String.join (lines detect d)).toList =
      (d.tags.flatMap (tagLines detect)).flatten := by
    simp [lines, List.flatMap_def, Function.comp_def]
  rw [texts, ink_flatten, List.flatMap_assoc]
  simp only [flatMap_ink_tagLines]

end ObjcDecl.DocComment
