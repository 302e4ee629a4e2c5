import ObjcDecl.Proofs.DocText

/-!
# Escaping is one pass

A text is escaped by three replacements, and each goes over the whole text
that the one before it left. The pairs that they look for share characters
(`/*/` opens a comment and closes one with the same star), and a mark that
one of them puts in stands between characters that the next one looks at.
None of this matters: what comes out is what one pass over the source
writes that copies every character, doubles `@`, and puts a mark between
two neighbours wherever they are a delimiter (`escape_eq_escapeOnce`).

Each replacement of a pair puts a mark between neighbours and does nothing
else, since its two characters differ (`replacePair_eq_between`). A mark is
no half of a delimiter, so the gaps of both replacements can be filled at
once (`between_between`), and so can an `@` be doubled on the way
(`between_flatMap_copies`).
-/

namespace ObjcDecl.DocComment

open Text

/-! ## One pass -/

/-- What is written of a character: itself, an `@` twice. -/
def copies (x : Char) : List Char := if x = '@' then ['@', '@'] else [x]

/-- What is written between neighbours: a mark if they are a delimiter. -/
def parting (x y : Char) : List Char := if Apart x y then [] else ['\\']

/-- Copies a text from left to right, with what has to stand between its
characters. -/
def escapeOnce : List Char → List Char
  | [] => []
  | [x] => copies x
  | x :: y :: cs => copies x ++ parting x y ++ escapeOnce (y :: cs)

/-! ## Filling the gaps of a text -/

/-- A text with something in the gaps between its characters. -/
def between (gap : Char → Char → List Char) : List Char → List Char
  | [] => []
  | [x] => [x]
  | x :: y :: cs => x :: (gap x y ++ between gap (y :: cs))

variable {f gap : Char → Char → List Char}

/-- The first character stays in front. -/
theorem exists_between_cons (gap : Char → Char → List Char) (x : Char) (cs : List Char) :
    ∃ rest, between gap (x :: cs) = x :: rest := by
  cases cs with
  | nil => exact ⟨[], rfl⟩
  | cons y cs => exact ⟨_, rfl⟩

/-- After a character that leaves its gap empty, filling goes on with the
rest of the text. -/
theorem between_cons_of_nil {x : Char} (empty : ∀ y, gap x y = []) (cs : List Char) :
    between gap (x :: cs) = x :: between gap cs := by
  cases cs with
  | nil => rfl
  | cons y cs => rw [between, empty y, List.nil_append]

/-- Replacing a pair by itself with a mark inside fills the gaps of this
pair: what is consumed with it does not begin another one. -/
theorem replacePair_eq_between {a b : Char} (differ : a ≠ b) (m : Char) (cs : List Char) :
    replacePair a b [a, m, b] cs = between (fun x y => if x = a ∧ y = b then [m] else []) cs := by
  induction cs using replacePair.induct a b with
  | case1 => rfl
  | case2 => rfl
  | case3 x y cs pair ih =>
    obtain ⟨rfl, rfl⟩ := pair
    rw [replacePair, if_pos ⟨rfl, rfl⟩, ih, between, if_pos ⟨rfl, rfl⟩,
      between_cons_of_nil fun z => if_neg fun h => differ h.1.symm]
    rfl
  | case4 x y cs other ih => rw [replacePair, if_neg other, ih, between, if_neg other]; rfl

/-- A mark leaves the gaps beside it empty, so a gap that is filled with a
mark is not filled again. -/
theorem between_between {D : Char → Char → Prop} [DecidableRel D] {m : Char}
    (before : ∀ x, gap x m = []) (after : ∀ y, gap m y = []) (cs : List Char) :
    between gap (between (fun x y => if D x y then [m] else []) cs) =
      between (fun x y => if D x y then [m] else gap x y) cs := by
  induction cs with
  | nil => rfl
  | cons x cs ih =>
    cases cs with
    | nil => rfl
    | cons y cs =>
      obtain ⟨rest, tail⟩ := exists_between_cons (fun x y => if D x y then [m] else []) y cs
      rw [tail] at ih
      by_cases h : D x y
      · simp only [between, if_pos h, tail, ← ih, List.cons_append, List.nil_append, before,
          after]
      · simp only [between, if_neg h, tail, ← ih, List.nil_append]

/-! ## Doubling -/

theorem parting_at (y : Char) : parting '@' y = [] := if_pos (.of_left (by decide) (by decide))

/-- A copied character leaves the gap before the next one where it was. -/
theorem between_copies_append (x y : Char) (cs : List Char) :
    between parting (copies x ++ y :: cs) =
      copies x ++ parting x y ++ between parting (y :: cs) := by
  unfold copies
  split
  · next doubled =>
    rw [doubled, parting_at, List.cons_append, between_cons_of_nil parting_at, List.cons_append,
      between_cons_of_nil parting_at]
    rfl
  · rfl

/-- The copies of a text begin as the text does. -/
theorem exists_flatMap_copies_cons (x : Char) (cs : List Char) :
    ∃ rest, (x :: cs).flatMap copies = x :: rest := by
  rw [List.flatMap_cons, copies]
  split
  · next doubled => exact ⟨_, by rw [doubled]; rfl⟩
  · exact ⟨_, rfl⟩

theorem between_flatMap_copies (cs : List Char) :
    between parting (cs.flatMap copies) = escapeOnce cs := by
  induction cs using escapeOnce.induct with
  | case1 => rfl
  | case2 x =>
    rw [List.flatMap_singleton, escapeOnce, copies]
    split <;> rfl
  | case3 x y cs ih =>
    obtain ⟨rest, copied⟩ := exists_flatMap_copies_cons y cs
    rw [List.flatMap_cons, copied, between_copies_append, ← copied, ih, escapeOnce]

/-! ## The three replacements -/

/-- The two replacements of pairs fill the gaps that hold a delimiter. -/
theorem replacePair_replacePair (cs : List Char) :
    replacePair '*' '/' ['*', '\\', '/'] (replacePair '/' '*' ['/', '\\', '*'] cs) =
      between parting cs := by
  have gaps : (fun x y : Char => if x = '/' ∧ y = '*' then ['\\'] else
      if x = '*' ∧ y = '/' then ['\\'] else []) = parting := by
    funext x y
    by_cases opener : x = '/' ∧ y = '*'
    · simp [parting, Apart, opener]
    · by_cases closer : x = '*' ∧ y = '/' <;> simp [parting, Apart, opener, closer]
  rw [replacePair_eq_between (by decide), replacePair_eq_between (by decide),
    between_between (fun x => if_neg (by simp)) (fun y => if_neg (by simp)), gaps]

/-- The three replacements write what one pass writes, for every text; and
that has no delimiter in it. -/
theorem escape_eq_escapeOnce (cs : List Char) :
    escape cs = escapeOnce cs ∧
      ¬ ['/', '*'] <:+: escape cs ∧ ¬ ['*', '/'] <:+: escape cs := by
  have none {a b : Char} (delimiter : ¬ Apart a b) : ¬ [a, b] <:+: escape cs := fun part =>
    delimiter (List.isChain_pair.mp (isChain_part (isChain_escape cs) part))
  refine ⟨?_, none (by decide), none (by decide)⟩
  rw [escape, replacePair_replacePair]
  exact between_flatMap_copies cs

example : escape "/*/ a@b **/*".toList = "/\\*\\/ a@@b **\\/\\*".toList := by decide

end ObjcDecl.DocComment
