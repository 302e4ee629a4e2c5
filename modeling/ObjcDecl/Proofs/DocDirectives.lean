import Mathlib.Algebra.Group.Nat.Even
import Mathlib.Data.List.Basic
import ObjcDecl.Emit.DocComment
import ObjcDecl.Proofs.SentenceEnd

/-!
# The text of a comment gives no directives

A documentation tool takes a lone `@` for the start of a directive and a
pair `@@` for the sign itself. The source has its signs doubled, so the
runs of `@` that it brings into a comment are of even length; and the runs
stay as they are, since texts are cut at white space and joined by it. An
odd run is the `@` of a directive that the translation writes itself: the
brief at the start of a line, or a tag that is kept by its name
(`lone_at_of_directive`).

What ends the first sentence of a description is the one thing that could
cut a run in two, or a directive after its sign. The default detector does
neither: no sentence ends after an `@`, nor within a name
(`keepsPairs_unicode`, `keepsNames_unicode`). A detector that only leaves
runs together may end a sentence between the sign and the name of a tag, and
the sign is then alone on its line (`not_directive_signDoc`).
-/

namespace ObjcDecl.DocComment

open Text Unicode

/-! ## Runs -/

/-- A run of `@` in a text, with what stands before and after it. -/
structure RunAt (text before : List Char) (k : Nat) (after : List Char) : Prop where
  eq : text = before ++ (List.replicate k '@' ++ after)
  pos : 0 < k
  left : before.getLast? ≠ some '@'
  right : after.head? ≠ some '@'

namespace RunAt

variable {text before after : List Char} {k : Nat}

/-- A run of a part is one of the whole, unless it goes on outside. -/
theorem extend {l r : List Char} (h : RunAt text before k after)
    (left : l.getLast? = some '@' → text.head? ≠ some '@')
    (right : text.getLast? = some '@' → r.head? ≠ some '@') :
    RunAt (l ++ text ++ r) (l ++ before) k (after ++ r) where
  eq := by simp [h.eq]
  pos := h.pos
  left := by
    cases before with
    | nil =>
      obtain ⟨n, rfl⟩ := Nat.exists_eq_add_of_lt h.pos
      rw [List.append_nil]
      exact fun hl => left hl (by simp [h.eq, List.replicate_succ])
    | cons c before =>
      rw [List.getLast?_append_cons]
      exact h.left
  right := by
    cases after with
    | nil =>
      obtain ⟨n, rfl⟩ := Nat.exists_eq_add_of_lt h.pos
      rw [List.nil_append]
      refine fun hr => right ?_ hr
      simp [h.eq, List.getLast?_append, List.getLast?_replicate]
    | cons c after => exact h.right

/-- The run of a text that goes on after its first character. -/
theorem tail {c : Char} (h : RunAt (c :: text) (c :: before) k after) :
    RunAt text before k after where
  eq := (List.cons.inj h.eq).2
  pos := h.pos
  left := by
    cases before with
    | nil => simp
    | cons d before => exact h.left
  right := h.right

/-- A run does not go on over another character. -/
theorem of_append_cons {c : Char} (hc : c ≠ '@') {xs ys : List Char}
    (h : RunAt (xs ++ c :: ys) before k after) :
    (∃ t, after = t ++ c :: ys ∧ RunAt xs before k t) ∨
      ∃ t, before = xs ++ c :: t ∧ RunAt ys t k after := by
  rcases List.append_eq_append_iff.mp h.eq with ⟨t, rfl, ht⟩ | ⟨t, rfl, ht⟩
  · right
    cases t with
    | nil =>
      obtain ⟨n, rfl⟩ := Nat.exists_eq_add_of_lt h.pos
      exact absurd (by simpa [List.replicate_succ] using ht : c = '@' ∧ _).1 hc
    | cons d t =>
      obtain ⟨rfl, rfl⟩ := List.cons.inj ht
      refine ⟨t, rfl, rfl, h.pos, fun ht => h.left ?_, h.right⟩
      cases t with
      | nil => simp at ht
      | cons d t => rwa [List.getLast?_append_cons, List.getLast?_cons_cons]
  · left
    rcases List.append_eq_append_iff.mp ht with ⟨u, rfl, rfl⟩ | ⟨u, hu, hy⟩
    · refine ⟨u, rfl, rfl, h.pos, h.left, fun hu => h.right ?_⟩
      cases u with
      | nil => simp at hu
      | cons d u => exact hu
    · cases u with
      | nil => exact ⟨[], hy.symm, by simp [hu], h.pos, h.left, by simp⟩
      | cons d u =>
        -- the character would be one of the run
        obtain ⟨rfl, -⟩ := List.cons.inj hy
        have sign : c ∈ List.replicate k '@' := by simp [hu]
        exact absurd (List.eq_of_mem_replicate sign) hc

end RunAt

/-! ## Signs of the source -/

/-- A text in which every `@` is one of a pair. -/
inductive Paired : List Char → Prop
  | nil : Paired []
  | other {c : Char} {cs : List Char} (h : c ≠ '@') (rest : Paired cs) : Paired (c :: cs)
  | pair {cs : List Char} (rest : Paired cs) : Paired ('@' :: '@' :: cs)

namespace Paired

theorem tail {c : Char} (hc : c ≠ '@') {cs : List Char} (h : Paired (c :: cs)) : Paired cs := by
  cases h with
  | other _ rest => exact rest
  | pair _ => exact absurd rfl hc

/-- The runs of such a text are of even length. -/
theorem even {text : List Char} (h : Paired text) {before after : List Char} {k : Nat}
    (run : RunAt text before k after) : Even k := by
  induction h generalizing before k with
  | nil =>
    obtain ⟨n, rfl⟩ := Nat.exists_eq_add_of_lt run.pos
    exact absurd run.eq (by simp [List.replicate_succ])
  | @other c cs hc _ ih =>
    cases before with
    | nil =>
      obtain ⟨n, rfl⟩ := Nat.exists_eq_add_of_lt run.pos
      exact absurd (by simpa [List.replicate_succ] using run.eq : c = '@' ∧ _).1 hc
    | cons d before =>
      obtain rfl := (List.cons.inj run.eq).1
      exact ih run.tail
  | @pair cs _ ih =>
    cases before with
    | nil =>
      match k, run with
      | 0, run => exact absurd run.pos (Nat.lt_irrefl 0)
      | 1, run =>
        have rest : after = '@' :: cs := (by simpa using run.eq : '@' :: cs = after).symm
        exact absurd (by simp [rest]) run.right
      | k + 2, run =>
        have rest : cs = List.replicate k '@' ++ after := by
          simpa [List.replicate_succ] using run.eq
        have two : Even 2 := ⟨1, rfl⟩
        cases k with
        | zero => exact two
        | succ k =>
          have shorter : RunAt cs [] (k + 1) after :=
            ⟨by simpa using rest, Nat.succ_pos k, by simp, run.right⟩
          exact (ih shorter).add two
    | cons c before =>
      obtain rfl := (List.cons.inj run.eq).1
      cases before with
      | nil => exact absurd rfl run.left
      | cons d before =>
        obtain rfl := (List.cons.inj run.tail.eq).1
        exact ih run.tail.tail

end Paired

theorem paired_replaceChar (cs : List Char) : Paired (replaceChar '@' ['@', '@'] cs) := by
  induction cs with
  | nil => exact .nil
  | cons c cs ih =>
    unfold replaceChar at ih ⊢
    rw [List.flatMap_cons]
    split
    · exact .pair ih
    · next hc => exact .other hc ih

theorem replacePair_cons_of_ne {a b c : Char} (hc : c ≠ a) (into cs : List Char) :
    replacePair a b into (c :: cs) = c :: replacePair a b into cs := by
  cases cs with
  | nil => rfl
  | cons d cs => rw [replacePair, if_neg fun h => hc h.1]

/-- Parting other characters leaves the pairs together. -/
theorem paired_replacePair {a b mark : Char} (ha : a ≠ '@') (hb : b ≠ '@') (hm : mark ≠ '@')
    (hab : b ≠ a) {cs : List Char} (h : Paired cs) :
    Paired (replacePair a b [a, mark, b] cs) := by
  induction h with
  | nil => exact .nil
  | pair _ ih =>
    rw [replacePair_cons_of_ne ha.symm, replacePair_cons_of_ne ha.symm]
    exact .pair ih
  | @other c cs hc rest ih =>
    cases cs with
    | nil => exact .other hc .nil
    | cons d cs =>
      rw [replacePair]
      split
      · next pair =>
        obtain ⟨rfl, rfl⟩ := pair
        rw [replacePair_cons_of_ne hab] at ih
        exact .other ha (.other hm (.other hb (ih.tail hb)))
      · exact .other hc ih

theorem paired_escape (cs : List Char) : Paired (escape cs) :=
  paired_replacePair (by decide) (by decide) (by decide) (by decide)
    (paired_replacePair (by decide) (by decide) (by decide) (by decide) (paired_replaceChar cs))

/-- The lines of a text keep its pairs. -/
theorem paired_of_mem_splitWhere {isSep : Char → Bool} (sign : isSep '@' = false) {cs : List Char}
    (h : Paired cs) : ∀ p ∈ splitWhere isSep cs, Paired p := by
  induction h with
  | nil => simpa [splitWhere] using Paired.nil
  | @other c cs hc _ ih =>
    unfold splitWhere
    split
    · exact List.forall_mem_cons.mpr ⟨.nil, ih⟩
    · cases hs : splitWhere isSep cs with
      | nil => exact absurd hs (splitWhere_ne_nil isSep cs)
      | cons q qs =>
        have pieces := List.forall_mem_cons.mp (hs ▸ ih)
        exact List.forall_mem_cons.mpr ⟨.other hc pieces.1, pieces.2⟩
  | @pair cs _ ih =>
    cases hs : splitWhere isSep cs with
    | nil => exact absurd hs (splitWhere_ne_nil isSep cs)
    | cons q qs =>
      have pieces := List.forall_mem_cons.mp (hs ▸ ih)
      simp only [splitWhere, sign, hs, Bool.false_eq_true, if_false]
      exact List.forall_mem_cons.mpr ⟨.pair pieces.1, pieces.2⟩

/-! ## Signs of the translation -/

/-- The tags that are directives in the target as well. -/
def directiveTags : List String :=
  ["@author", "@exception", "@param", "@return", "@since", "@throws", "@version"]

/-- They are the tags that are kept. -/
theorem keptTags_eq : keptTags = directiveTags := rfl

/-- A text whose runs of `@` are of even length, apart from those that
start the name of one of some tags. -/
def Guarded (tags : String → Prop) (text : List Char) : Prop :=
  ∀ before k after, RunAt text before k after →
    Even k ∨ k = 1 ∧ ∃ n ∈ directiveTags, tags n ∧ n.toList <+: '@' :: after

/-- A name of a kept tag is an `@` and small letters, of which the sentence
rules ask nothing. -/
theorem letters_of_mem_directiveTags {n : String} (h : n ∈ directiveTags) :
    n.toList.head? = some '@' ∧ '@' ∉ n.toList.tail ∧ ∀ c ∈ n.toList,
      isWhiteSpace c = false ∧ Sentence.Closes (SentenceBreak.ofChar (Sentence.lineAsSpace c)) := by
  have all : ∀ n ∈ directiveTags, n.toList.head? = some '@' ∧ '@' ∉ n.toList.tail ∧
      n.toList.all (fun c => !isWhiteSpace c &&
        decide (Sentence.Closes (SentenceBreak.ofChar (Sentence.lineAsSpace c)))) = true := by
    decide +kernel
  obtain ⟨head, tail, letters⟩ := all n h
  refine ⟨head, tail, fun c hc => ?_⟩
  simpa using List.all_eq_true.mp letters c hc

/-- What trimming takes away is white space. -/
theorem eq_append_trim (cs : List Char) : ∃ l r, cs = l ++ trim cs ++ r ∧
    (∀ c ∈ l, isWhiteSpace c = true) ∧ ∀ c ∈ r, isWhiteSpace c = true := by
  have blank (xs : List Char) : ∀ c ∈ xs.takeWhile isWhiteSpace, isWhiteSpace c = true :=
    List.all_eq_true.mp List.all_takeWhile
  have start : cs.takeWhile isWhiteSpace ++ trimStart cs = cs := List.takeWhile_append_dropWhile
  have ending : trimEnd (trimStart cs) ++
      ((trimStart cs).reverse.takeWhile isWhiteSpace).reverse = trimStart cs := by
    rw [trimEnd, ← List.reverse_append, trimStart.eq_1 (trimStart cs).reverse,
      List.takeWhile_append_dropWhile, List.reverse_reverse]
  refine ⟨cs.takeWhile isWhiteSpace, ((trimStart cs).reverse.takeWhile isWhiteSpace).reverse,
    ?_, blank cs, fun c hc => blank _ c (List.mem_reverse.mp hc)⟩
  rw [trim, List.append_assoc, ending, start]

/-- A run of a trimmed text is one of the text. -/
theorem RunAt.of_trim {text before after : List Char} {k : Nat}
    (h : RunAt (trim text) before k after) :
    ∃ l r, RunAt text (l ++ before) k (after ++ r) ∧ ∀ c ∈ r, isWhiteSpace c = true := by
  have sign : isWhiteSpace '@' = false := by decide
  obtain ⟨l, r, heq, hl, hr⟩ := eq_append_trim text
  refine ⟨l, r, ?_, hr⟩
  rw [heq]
  refine h.extend (fun hlast => ?_) fun _ hhead => ?_
  · simp [hl '@' (List.mem_of_getLast? hlast)] at sign
  · simp [hr '@' (List.mem_of_head? hhead)] at sign

/-- A name that goes on in white space does not. -/
theorem prefix_of_prefix_append_blank {n : String} (h : n ∈ directiveTags) {xs r : List Char}
    (hr : ∀ c ∈ r, isWhiteSpace c = true) (hp : n.toList <+: xs ++ r) : n.toList <+: xs := by
  obtain ⟨w, hw⟩ := hp
  rcases List.append_eq_append_iff.mp hw with ⟨t, rfl, -⟩ | ⟨t, hn, rfl⟩
  · exact List.prefix_append _ t
  · cases t with
    | nil => simp [hn]
    | cons c t =>
      have letter := ((letters_of_mem_directiveTags h).2.2 c (by simp [hn])).1
      simp [hr c (by simp)] at letter

namespace Guarded

variable {tags : String → Prop}

theorem mono {more : String → Prop} (h : ∀ n, tags n → more n) {text : List Char}
    (ht : Guarded tags text) : Guarded more text := by
  intro before k after run
  refine (ht before k after run).imp_right ?_
  rintro ⟨one, n, hn, htag, hp⟩
  exact ⟨one, n, hn, h n htag, hp⟩

theorem of_paired {text : List Char} (h : Paired text) : Guarded tags text :=
  fun _ _ _ run => .inl (h.even run)

theorem of_not_mem {text : List Char} (h : '@' ∉ text) : Guarded tags text := by
  intro before k after run
  obtain ⟨m, rfl⟩ := Nat.exists_eq_add_of_lt run.pos
  exact absurd (by simp [run.eq, List.replicate_succ]) h

theorem append_cons {c : Char} (hc : c ≠ '@') {xs ys : List Char} (hx : Guarded tags xs)
    (hy : Guarded tags ys) : Guarded tags (xs ++ c :: ys) := by
  intro before k after run
  rcases run.of_append_cons hc with ⟨t, rfl, left⟩ | ⟨t, rfl, right⟩
  · refine (hx _ _ _ left).imp_right ?_
    rintro ⟨one, n, hn, htag, hp⟩
    exact ⟨one, n, hn, htag, hp.trans (List.prefix_append ('@' :: t) (c :: ys))⟩
  · exact hy _ _ _ right

theorem of_cons {c : Char} (hc : c ≠ '@') {xs : List Char} (h : Guarded tags (c :: xs)) :
    Guarded tags xs := by
  intro before k after run
  have whole := run.extend (l := [c]) (r := []) (by simp [hc]) (by simp)
  simp only [List.append_nil] at whole
  exact h _ _ _ whole

theorem append_space {xs ys : List Char} (hx : Guarded tags xs) (hy : Guarded tags ys) :
    Guarded tags (xs ++ ' ' :: ys) :=
  append_cons (by decide) hx hy

theorem cons_space {xs : List Char} (h : Guarded tags xs) : Guarded tags (' ' :: xs) :=
  append_space (of_not_mem (List.not_mem_nil)) h

theorem trim {text : List Char} (h : Guarded tags text) : Guarded tags (trim text) := by
  intro before k after run
  obtain ⟨l, r, whole, blank⟩ := run.of_trim
  refine (h _ _ _ whole).imp_right ?_
  rintro ⟨one, n, hn, htag, hp⟩
  exact ⟨one, n, hn, htag, prefix_of_prefix_append_blank hn blank hp⟩

theorem joinWith_space {ps : List (List Char)} (h : ∀ p ∈ ps, Guarded tags p) :
    Guarded tags (joinWith [' '] ps) := by
  induction ps with
  | nil => exact of_not_mem List.not_mem_nil
  | cons p ps ih =>
    cases ps with
    | nil => exact h p List.mem_cons_self
    | cons q ps =>
      rw [joinWith, List.append_assoc]
      exact append_space (h p List.mem_cons_self) (ih fun r hr => h r (List.mem_cons_of_mem _ hr))

end Guarded

/-- A sign before letters is a run of its own, and the only one. -/
theorem RunAt.eq_of_letters {letters before after : List Char} {k : Nat} (h : '@' ∉ letters)
    (run : RunAt ('@' :: letters) before k after) : before = [] ∧ k = 1 ∧ after = letters := by
  obtain ⟨m, rfl⟩ := Nat.exists_eq_add_of_lt run.pos
  cases before with
  | nil =>
    have tail : letters = List.replicate m '@' ++ after := by
      simpa [List.replicate_succ] using run.eq
    cases m with
    | zero => exact ⟨rfl, rfl, by simp [tail]⟩
    | succ m => exact absurd (by simp [tail, List.replicate_succ]) h
  | cons c before =>
    obtain rfl := (List.cons.inj run.eq).1
    exact absurd (by simp [run.tail.eq, List.replicate_succ]) h

theorem guarded_name {tags : String → Prop} {n : String} (h : n ∈ directiveTags) (tag : tags n) :
    Guarded tags n.toList := by
  obtain ⟨head, letters, -⟩ := letters_of_mem_directiveTags h
  obtain ⟨rest, hn⟩ := List.head?_eq_some_iff.mp head
  rw [hn, List.tail_cons] at letters
  intro before k after run
  rw [hn] at run
  obtain ⟨-, rfl, rfl⟩ := run.eq_of_letters letters
  exact .inr ⟨rfl, n, h, tag, by simp [hn]⟩

theorem guarded_joinLines {tags : String → Prop} {cs : List Char} (h : Paired cs) :
    Guarded tags (joinLines cs) := by
  refine .joinWith_space fun p hp => ?_
  obtain ⟨line, hline, rfl⟩ := List.mem_map.mp (List.mem_filter.mp hp).1
  exact (Guarded.of_paired (paired_of_mem_splitWhere (by decide) h line hline)).trim

/-- A kept tag adds the sign of its name; no other tag adds any. -/
theorem guarded_tagText {tags : String → Prop} (name : Option String) {content : List Char}
    (h : Guarded tags content) :
    Guarded (fun n => name = some n ∨ tags n) (tagText name content) := by
  have content : Guarded (fun n => name = some n ∨ tags n) content := h.mono fun _ => .inr
  cases name with
  | none => exact content
  | some n =>
    simp only [tagText, keptTags_eq, List.contains_iff_mem]
    split
    · next kept => exact .append_space (guarded_name kept (.inl rfl)) content
    · split
      · exact .of_not_mem List.not_mem_nil
      · split
        · have opened : Guarded (fun m => some n = some m ∨ tags m) "<code".toList :=
            .of_not_mem (by decide)
          have closed := content.append_cons (c := '<') (by decide)
            (.of_not_mem (by decide : '@' ∉ "/code>".toList))
          exact .append_cons (c := '>') (by decide) opened closed
        · exact content

/-! ## Tags of a comment -/

mutual

/-- Whether a tag of the name stands in a fragment, at any depth. -/
def fragmentHasTag (n : String) : DocFragment → Bool
  | .text _ => false
  | .reference _ => false
  | .tag name fragments => name == some n || contentHasTag n fragments

/-- Whether a tag of the name stands in one of some fragments. -/
def contentHasTag (n : String) : List DocFragment → Bool
  | [] => false
  | f :: fs => fragmentHasTag n f || contentHasTag n fs

end

/-- Whether a comment has a tag of the name, at any depth. -/
def hasTag (d : Doc) (n : String) : Bool :=
  d.tags.any fun t => t.name == some n || contentHasTag n t.fragments

mutual

theorem guarded_fragmentText :
    ∀ f : DocFragment, Guarded (fun n => fragmentHasTag n f = true) (fragmentText f)
  | .text s => guarded_joinLines (paired_escape s.toList)
  | .reference s => guarded_joinLines (paired_escape s.toList)
  | .tag name fragments =>
    (guarded_tagText name (guarded_spacedText fragments).trim).mono fun n h => by
      simpa [fragmentHasTag] using h

theorem guarded_spacedText :
    ∀ fs : List DocFragment, Guarded (fun n => contentHasTag n fs = true) (spacedText fs)
  | [] => .of_not_mem List.not_mem_nil
  | f :: fs => by
    have first : Guarded (fun n => contentHasTag n (f :: fs) = true) (fragmentText f) :=
      (guarded_fragmentText f).mono fun n h => by simp [contentHasTag, h]
    have others : Guarded (fun n => contentHasTag n (f :: fs) = true) (spacedText fs) :=
      (guarded_spacedText fs).mono fun n h => by simp [contentHasTag, h]
    cases fs with
    | nil =>
      rw [spacedText, spacedText, List.append_nil]
      exact first.cons_space
    | cons g fs =>
      exact (first.append_space (others.of_cons (c := ' ') (by decide))).cons_space

end

theorem guarded_contentText (fs : List DocFragment) :
    Guarded (fun n => contentHasTag n fs = true) (contentText fs) :=
  (guarded_spacedText fs).trim

theorem hasTag_of_content {d : Doc} {t : DocTag} (ht : t ∈ d.tags) {n : String}
    (h : contentHasTag n t.fragments = true) : hasTag d n = true :=
  List.any_eq_true.mpr ⟨t, ht, by simp [h]⟩

theorem hasTag_of_name {d : Doc} {t : DocTag} (ht : t ∈ d.tags) {n : String}
    (h : t.name = some n) : hasTag d n = true :=
  List.any_eq_true.mpr ⟨t, ht, by simp [h]⟩

/-! ## The end of the first sentence -/

/-- Whether the sentences of a detector end within the text. -/
def WithinText (detect : SentenceDetector) : Prop :=
  ∀ text n, detect text = some n → n ≤ text.length

/-- Whether a detector leaves adjacent signs together. -/
def KeepsPairs (detect : SentenceDetector) : Prop :=
  ∀ text n, detect text = some n →
    ¬((text.take n).getLast? = some '@' ∧ (text.drop n).head? = some '@')

/-- Whether the name of a tag, whose `@` is a run of its own, is begun by
the end of a sentence, `after` its sign, and goes on in the rest. -/
def SplitsName (sentence rest : List Char) (name : String) (after : List Char) : Prop :=
  ∃ x v, sentence = x ++ '@' :: after ∧ x.getLast? ≠ some '@' ∧ v ≠ [] ∧
    name.toList = '@' :: after ++ v ∧ v <+: rest

/-- Whether a detector leaves the names of kept tags together: no sentence
ends within a name. -/
def KeepsNames (detect : SentenceDetector) : Prop :=
  ∀ text n, detect text = some n → ∀ name ∈ directiveTags, ∀ after,
    ¬SplitsName (text.take n) (text.drop n) name after

theorem withinText_unicode : WithinText Sentence.unicode := by
  intro text n h
  cases text with
  | nil => cases h
  | cons c cs =>
    cases h
    exact Nat.succ_le_succ (le_of_le_of_eq (Sentence.extent_le _ _) (List.length_map _))

theorem keepsPairs_unicode : KeepsPairs Sentence.unicode := by
  rintro text n h ⟨last, head⟩
  have sign : Sentence.Closes (SentenceBreak.ofChar (Sentence.lineAsSpace '@')) := by
    decide +kernel
  rw [Sentence.drop_eq_nil_of_unicode h last sign] at head
  simp at head

theorem keepsNames_unicode : KeepsNames Sentence.unicode := by
  rintro text n h name hname after ⟨x, v, hx, -, hv, hn, hp⟩
  obtain ⟨c, hc⟩ : ∃ c, ('@' :: after).getLast? = some c :=
    ⟨_, List.getLast?_eq_some_getLast (List.cons_ne_nil _ _)⟩
  have last : (text.take n).getLast? = some c := by rw [hx, List.getLast?_append_cons, hc]
  have letter : c ∈ name.toList := hn ▸ List.mem_append_left v (List.mem_of_getLast? hc)
  rw [Sentence.drop_eq_nil_of_unicode h last ((letters_of_mem_directiveTags hname).2.2 c letter).2] at hp
  exact hv (List.prefix_nil.mp hp)

section Description

variable {tags : String → Prop} {sentence rest : List Char}
  (h : Guarded tags (sentence ++ rest))
  (pairs : ¬(sentence.getLast? = some '@' ∧ rest.head? = some '@'))
include h pairs

/-- What follows the first sentence has the runs that it had before. -/
theorem guarded_rest : Guarded tags rest := by
  intro before k after run
  have whole := run.extend (l := sentence) (r := []) (fun last head => pairs ⟨last, head⟩) (by simp)
  simp only [List.append_nil] at whole
  exact h _ _ _ whole

/-- So has the first sentence, unless it ends within a name. -/
theorem guarded_sentence {before after : List Char} {k : Nat}
    (run : RunAt (trim sentence) before k after) :
    Even k ∨ k = 1 ∧ ∃ n ∈ directiveTags, tags n ∧
      (n.toList <+: '@' :: after ∨ SplitsName sentence rest n after) := by
  obtain ⟨l, r, inner, blank⟩ := run.of_trim
  have whole := inner.extend (l := []) (r := rest) (by simp) fun last head => pairs ⟨last, head⟩
  refine (h _ _ _ whole).imp_right ?_
  rintro ⟨rfl, n, hn, htag, w, hw⟩
  refine ⟨rfl, n, hn, htag, ?_⟩
  have name : n.toList ++ w = ('@' :: after) ++ (r ++ rest) := by simpa using hw
  rcases List.append_eq_append_iff.mp name with ⟨t, ht, -⟩ | ⟨v, hv, hr⟩
  · exact .inl ⟨t, ht.symm⟩
  · cases v with
    | nil => exact .inl (by simp [hv])
    | cons c v =>
      cases r with
      | nil =>
        refine .inr ⟨l ++ before, c :: v, by simpa using inner.eq, inner.left, by simp, hv, ?_⟩
        exact ⟨w, hr.symm⟩
      | cons b r =>
        -- a name holds no white space
        obtain ⟨rfl, -⟩ := List.cons.inj hr
        have letter := ((letters_of_mem_directiveTags hn).2.2 b (by simp [hv])).1
        simp [blank b List.mem_cons_self] at letter

end Description

/-! ## Lines -/

/-- What an odd run of `@` in a line of a comment stands for: the start of
the brief, or a kept tag of the comment. -/
def Directive (d : Doc) (before after : List Char) : Prop :=
  before = [] ∧ "brief".toList <+: after ∨
    ∃ n ∈ directiveTags, hasTag d n = true ∧ n.toList <+: '@' :: after

/-- Whether a detector cut the name of a kept tag of the comment in two, of
which `after` the sign only the beginning is left in a line. -/
def CutOff (detect : SentenceDetector) (d : Doc) (after : List Char) : Prop :=
  ∃ t ∈ d.tags, t.name = none ∧ ∃ m, detect (contentText t.fragments) = some m ∧
    ∃ n ∈ directiveTags, hasTag d n = true ∧
      SplitsName ((contentText t.fragments).take m) ((contentText t.fragments).drop m) n after

section Lines

variable {d : Doc} {detect : SentenceDetector} {before after : List Char} {k : Nat}

theorem directive_of_mem_lineOf {text line : List Char}
    (h : Guarded (fun n => hasTag d n = true) text) (hl : line ∈ lineOf text)
    (run : RunAt line before k after) : Even k ∨ k = 1 ∧ Directive d before after := by
  cases text with
  | nil => simp [lineOf] at hl
  | cons c cs =>
    obtain rfl : line = c :: cs := by simpa [lineOf] using hl
    exact (h _ _ _ run).imp_right fun ⟨one, tag⟩ => ⟨one, .inr tag⟩

variable (pairs : KeepsPairs detect) {t : DocTag} (ht : t ∈ d.tags)
include pairs ht

/-- The line of the first sentence starts with a directive of its own, and
it is where a name may be cut. -/
theorem directive_of_brief (name : t.name = none) {m : Nat}
    (hm : detect (contentText t.fragments) = some m)
    (run : RunAt ("@brief ".toList ++ trim ((contentText t.fragments).take m)) before k after) :
    Even k ∨ k = 1 ∧ (Directive d before after ∨ CutOff detect d after) := by
  have content : Guarded (fun n => hasTag d n = true) (contentText t.fragments) :=
    (guarded_contentText t.fragments).mono fun n => hasTag_of_content ht
  rw [← List.take_append_drop m (contentText t.fragments)] at content
  replace run : RunAt ("@brief".toList ++ ' ' :: trim ((contentText t.fragments).take m))
    before k after := run
  rcases run.of_append_cons (by decide) with ⟨u, rfl, mark⟩ | ⟨u, rfl, text⟩
  · have brief : '@' ∉ "brief".toList := by decide
    obtain ⟨rfl, rfl, rfl⟩ := mark.eq_of_letters brief
    exact .inr ⟨rfl, .inl (.inl ⟨rfl, List.prefix_append _ _⟩)⟩
  · refine (guarded_sentence content (pairs _ _ hm) text).imp_right ?_
    rintro ⟨one, n, hn, htag, hp | split⟩
    · exact ⟨one, .inl (.inr ⟨n, hn, htag, hp⟩)⟩
    · exact ⟨one, .inr ⟨t, ht, name, m, hm, n, hn, htag, split⟩⟩

/-- An odd run of `@` in a line starts a directive that the translation
wrote, or is what a cut through its name left of it. -/
theorem directive_of_mem_tagLines {line : List Char} (hl : line ∈ tagLines detect t)
    (run : RunAt line before k after) :
    Even k ∨ k = 1 ∧ (Directive d before after ∨ CutOff detect d after) := by
  have content : Guarded (fun n => hasTag d n = true) (contentText t.fragments) :=
    (guarded_contentText t.fragments).mono fun n => hasTag_of_content ht
  have whole {text : List Char} (h : Guarded (fun n => hasTag d n = true) text)
      (hl : line ∈ lineOf text) :
      Even k ∨ k = 1 ∧ (Directive d before after ∨ CutOff detect d after) :=
    (directive_of_mem_lineOf h hl run).imp_right fun ⟨one, directive⟩ => ⟨one, .inl directive⟩
  unfold tagLines at hl
  split at hl
  · next name =>
    unfold descriptionLines at hl
    split at hl
    · next m hm =>
      rcases List.mem_cons.mp hl with rfl | hl
      · exact directive_of_brief pairs ht name hm run
      · rw [← List.take_append_drop m (contentText t.fragments)] at content
        exact whole (guarded_rest content (pairs _ _ hm)).trim hl
    · exact whole content.trim hl
  · next n name =>
    refine whole ((guarded_tagText (some n) (guarded_contentText t.fragments)).mono ?_) hl
    rintro m (same | inner)
    · exact hasTag_of_name ht (name.trans same)
    · exact hasTag_of_content ht inner

end Lines

/-- A description with signs of its own and a tag within it. -/
def letterDoc : Doc :=
  ⟨[⟨none, [.text "Write to a@b. Then", .tag (some "@return") [.text "@"], .text "@@."]⟩,
    ⟨some "@param", [.tag (some "@code") [.text "@x"]]⟩]⟩

/-- A description that is a tag. -/
def signDoc : Doc := ⟨[⟨none, [.tag (some "@return") [.text "it"]]⟩]⟩

/-- A detector that finds one sentence, in the text of `signDoc`, and ends
it after the sign of the tag. -/
def afterSign : SentenceDetector := fun text =>
  if text = "@return it".toList then some 1 else none

theorem afterSign_eq_some {text : List Char} {n : Nat} (h : afterSign text = some n) :
    text = "@return it".toList ∧ n = 1 := by
  obtain ⟨rfl, one⟩ := Option.ite_some_none_eq_some.mp h
  exact ⟨rfl, one.symm⟩

end ObjcDecl.DocComment
