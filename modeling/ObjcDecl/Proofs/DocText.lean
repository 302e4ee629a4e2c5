import Mathlib.Data.List.Chain
import ObjcDecl.Emit.DocComment

/-!
# The text of a comment is harmless

Whatever the source says, a content line of a comment holds no line break
and neither opens nor closes a comment (`plain_of_mem_lines`). Escaping
parts every opener and closer, and no later step puts one together again:
the pieces of a text are parts of it, and where texts are joined, a space
or an angle bracket stands between them.

A text is `Plain` if its neighbouring characters are apart, so a part of
a plain text is plain, and two plain texts with a space between them are.
-/

namespace ObjcDecl.DocComment

open Text Unicode

/-- Whether neighbouring characters neither open nor close a comment. -/
def Apart (x y : Char) : Prop := ¬(x = '/' ∧ y = '*') ∧ ¬(x = '*' ∧ y = '/')

instance : DecidableRel Apart := fun x y =>
  inferInstanceAs (Decidable (¬(x = '/' ∧ y = '*') ∧ ¬(x = '*' ∧ y = '/')))

/-- A text that stays on its line and inside its comment. -/
structure Plain (cs : List Char) : Prop where
  apart : cs.IsChain Apart
  oneLine : ∀ c ∈ cs, isLineBreak c = false

theorem Apart.of_left {x y : Char} (slash : x ≠ '/') (star : x ≠ '*') : Apart x y :=
  ⟨fun h => slash h.1, fun h => star h.1⟩

theorem Apart.of_right {x y : Char} (slash : y ≠ '/') (star : y ≠ '*') : Apart x y :=
  ⟨fun h => star h.2, fun h => slash h.2⟩

theorem isChain_part {R : Char → Char → Prop} {xs ys : List Char} (h : ys.IsChain R)
    (part : xs <:+: ys) : xs.IsChain R := by
  obtain ⟨before, after, rfl⟩ := part
  exact h.left_of_append.right_of_append

/-- Texts on either side of a character that may stand beside any. -/
theorem isChain_append_cons {R : Char → Char → Prop} {c : Char} (left : ∀ x, R x c)
    (right : ∀ y, R c y) {xs ys : List Char} (hx : xs.IsChain R) (hy : ys.IsChain R) :
    (xs ++ c :: ys).IsChain R :=
  hx.append (hy.cons fun y _ => right y) fun x _ y h => by
    obtain rfl : c = y := by simpa using h
    exact left x

namespace Plain

theorem nil : Plain [] := ⟨.nil, by simp⟩

/-- A text whose characters can be checked one by one. -/
theorem of_all {cs : List Char} (apart : cs.IsChain Apart)
    (line : (cs.all fun c => !isLineBreak c) = true) : Plain cs :=
  ⟨apart, by simpa using line⟩

/-- A part of a plain text is plain. -/
theorem part {xs ys : List Char} (h : Plain ys) (part : xs <:+: ys) : Plain xs :=
  ⟨isChain_part h.apart part, fun c hc => h.oneLine c (part.subset hc)⟩

/-- Plain texts on either side of a character that is harmless by itself. -/
theorem append_cons {c : Char} (slash : c ≠ '/') (star : c ≠ '*') (line : isLineBreak c = false)
    {xs ys : List Char} (hx : Plain xs) (hy : Plain ys) : Plain (xs ++ c :: ys) where
  apart := isChain_append_cons (fun _ => .of_right slash star) (fun _ => .of_left slash star)
    hx.apart hy.apart
  oneLine x hx' := by
    rcases List.mem_append.mp hx' with h | h
    · exact hx.oneLine x h
    · rcases List.mem_cons.mp h with rfl | h
      · exact line
      · exact hy.oneLine x h

/-- Plain texts with a space between them. -/
theorem append_space {xs ys : List Char} (hx : Plain xs) (hy : Plain ys) :
    Plain (xs ++ ' ' :: ys) :=
  append_cons (by decide) (by decide) (by decide) hx hy

theorem cons_space {xs : List Char} (h : Plain xs) : Plain (' ' :: xs) := append_space .nil h

end Plain

/-! ## Escaping -/

/-- Replacing a pair leaves the beginning of a text, as the replacement
begins with what it replaces. -/
theorem head?_replacePair (a b : Char) (into cs : List Char) :
    (replacePair a b (a :: into) cs).head? = cs.head? := by
  unfold replacePair
  split
  · rfl
  · rfl
  · split
    · next h => simp [h.1]
    · rfl

/-- Where a pair is parted by a mark, neighbours are as they should be if
they are so beside the mark and were so before, the pair apart. -/
theorem isChain_replacePair {R S : Char → Char → Prop} {a b mark : Char}
    (before : R a mark) (after : R mark b) (kept : ∀ y, S b y → R b y)
    (other : ∀ x y, S x y → ¬(x = a ∧ y = b) → R x y) {cs : List Char} (h : cs.IsChain S) :
    (replacePair a b [a, mark, b] cs).IsChain R := by
  induction cs using replacePair.induct a b with
  | case1 => exact .nil
  | case2 x => exact .singleton x
  | case3 x y cs pair ih =>
    obtain ⟨rfl, rfl⟩ := pair
    -- the second character stays next to what follows the pair, which keeps its first character
    have rest := List.isChain_cons.mp h.tail
    rw [replacePair, if_pos ⟨rfl, rfl⟩, List.cons_append, List.cons_append, List.cons_append,
      List.nil_append, List.isChain_cons_cons, List.isChain_cons_cons, List.isChain_cons,
      head?_replacePair]
    exact ⟨before, after, fun z hz => kept z (rest.1 z hz), ih rest.2⟩
  | case4 x y cs pair ih =>
    have step := List.isChain_cons_cons.mp h
    rw [replacePair, if_neg pair, List.isChain_cons, head?_replacePair]
    refine ⟨fun z hz => ?_, ih step.2⟩
    obtain rfl : y = z := by simpa using hz
    exact other x y step.1 pair

/-- An escaped text neither opens nor closes a comment. The closers are
parted last: that puts no opener together, as a slash that was apart from
what follows stays so. -/
theorem isChain_escape (cs : List Char) : (escape cs).IsChain Apart := by
  have openers : (replacePair '/' '*' ['/', '\\', '*'] (replaceChar '@' ['@', '@'] cs)).IsChain
      fun x y => ¬(x = '/' ∧ y = '*') := by
    refine isChain_replacePair (S := fun _ _ => True) (by decide) (by decide)
      (fun y _ => by simp) (fun x y _ h => h) ?_
    exact (List.pairwise_of_forall fun _ _ => trivial).isChain
  refine isChain_replacePair (by decide) (by decide) (fun y h => ⟨h, by simp⟩)
    (fun x y opener closer => ⟨opener, closer⟩) openers

/-! ## Putting a text on one line -/

theorem plain_joinWith {ps : List (List Char)} (h : ∀ p ∈ ps, Plain p) :
    Plain (joinWith [' '] ps) := by
  induction ps with
  | nil => exact .nil
  | cons p ps ih =>
    cases ps with
    | nil => exact h p List.mem_cons_self
    | cons q ps =>
      rw [joinWith, List.append_assoc]
      exact .append_space (h p List.mem_cons_self)
        (ih fun r hr => h r (List.mem_cons_of_mem _ hr))

/-- The lines of a text are parts of it, and a space between two of them
puts nothing together. -/
theorem plain_joinLines {cs : List Char} (h : cs.IsChain Apart) : Plain (joinLines cs) := by
  refine plain_joinWith fun p hp => ?_
  obtain ⟨line, hline, rfl⟩ := List.mem_map.mp (List.mem_filter.mp hp).1
  have plain : Plain line :=
    ⟨isChain_part h (isInfix_of_mem_splitWhere hline), not_isSep_of_mem_splitWhere hline⟩
  exact plain.part (isInfix_trim line)

/-! ## Fragments and tags -/

/-- Angle brackets stand between the content and the marks around it. -/
theorem plain_code {content : List Char} (h : Plain content) :
    Plain ("<code>".toList ++ content ++ "</code>".toList) := by
  have shut : Plain (content ++ '<' :: "/code>".toList) :=
    .append_cons (by decide) (by decide) (by decide) h (.of_all (by decide) (by decide))
  have opened : Plain "<code".toList := .of_all (by decide) (by decide)
  exact .append_cons (c := '>') (by decide) (by decide) (by decide) opened shut

theorem plain_of_mem_keptTags {n : String} (h : n ∈ keptTags) : Plain n.toList := by
  have all : ∀ n ∈ keptTags, n.toList.IsChain Apart ∧
      (n.toList.all fun c => !isLineBreak c) = true := by
    decide
  exact .of_all (all n h).1 (all n h).2

/-- The text of a tag is plain if its content is. -/
theorem plain_tagText (name : Option String) {content : List Char} (h : Plain content) :
    Plain (tagText name content) := by
  unfold tagText
  split
  · exact h
  · next n =>
    split
    · next kept =>
      exact .append_space (plain_of_mem_keptTags (List.contains_iff_mem.mp kept)) h
    · split
      · exact .nil
      · split
        · exact plain_code h
        · exact h

mutual

theorem plain_fragmentText : ∀ f : DocFragment, Plain (fragmentText f)
  | .text s => plain_joinLines (isChain_escape s.toList)
  | .reference s => plain_joinLines (isChain_escape s.toList)
  | .tag name fragments =>
    plain_tagText name ((plain_spacedText fragments).part (isInfix_trim _))

theorem plain_spacedText : ∀ fs : List DocFragment, Plain (spacedText fs)
  | [] => .nil
  | [f] => by
    rw [spacedText, spacedText, List.append_nil]
    exact (plain_fragmentText f).cons_space
  | f :: g :: fs => by
    have rest : Plain (fragmentText g ++ spacedText fs) :=
      (plain_spacedText (g :: fs)).part (List.suffix_cons ' ' _).isInfix
    exact ((plain_fragmentText f).append_space rest).cons_space

end

/-! ## Content lines -/

theorem plain_contentText (fragments : List DocFragment) : Plain (contentText fragments) :=
  (plain_spacedText fragments).part (isInfix_trim _)

theorem plain_of_mem_lineOf {text line : List Char} (h : Plain text) (hl : line ∈ lineOf text) :
    Plain line := by
  cases text with
  | nil => simp [lineOf] at hl
  | cons c cs =>
    obtain rfl : line = c :: cs := by simpa [lineOf] using hl
    exact h

/-- Wherever the first sentence ends, both parts of a text are parts of
it. -/
theorem plain_of_mem_descriptionLines (detect : SentenceDetector) {text line : List Char}
    (h : Plain text) (hl : line ∈ descriptionLines detect text) : Plain line := by
  unfold descriptionLines at hl
  split at hl
  · next n _ =>
    rcases List.mem_cons.mp hl with rfl | hl
    · have sentence : Plain (trim (text.take n)) :=
        (h.part (List.take_prefix n text).isInfix).part (isInfix_trim _)
      have brief : Plain "@brief".toList := .of_all (by decide) (by decide)
      exact brief.append_space sentence
    · have rest : Plain (trim (text.drop n)) :=
        (h.part (List.drop_suffix n text).isInfix).part (isInfix_trim _)
      exact plain_of_mem_lineOf rest hl
  · exact plain_of_mem_lineOf (h.part (isInfix_trim _)) hl

/-- Every content line of a comment is plain, whatever the source says and
wherever its sentences end. -/
theorem plain_of_mem_lines {detect : SentenceDetector} {d : Doc} {l : String}
    (h : l ∈ lines detect d) : Plain l.toList := by
  obtain ⟨cs, hcs, rfl⟩ := List.mem_map.mp h
  obtain ⟨t, -, hcs⟩ := List.mem_flatMap.mp hcs
  rw [String.toList_ofList]
  unfold tagLines at hcs
  split at hcs
  · exact plain_of_mem_descriptionLines detect (plain_contentText _) hcs
  · exact plain_of_mem_lineOf (plain_tagText _ (plain_contentText _)) hcs

end ObjcDecl.DocComment
