import ObjcDecl.Text.Sentence

/-!
# Where a sentence ends

A first sentence that is not the whole text ends at a break
(`breaksBefore_of_firstLength`): the rules ask for one between what was
read and what follows. They never ask for one after a small letter or a
sign of no class, as no terminator is left open behind it. So such a
character is the last of a sentence only at the end of the text
(`drop_eq_nil_of_unicode`).
-/

namespace ObjcDecl.Text.Sentence

open Unicode

/-- The tail after some characters. -/
def tailAfter (t : Tail) (vs : List SentenceBreak) : Tail := vs.foldl Tail.step t

/-- Whether a character closes what was before it: no rule looks past it. -/
def Closes (v : SentenceBreak) : Prop := v = .other ∨ v = .lower

instance : DecidablePred Closes := fun v =>
  inferInstanceAs (Decidable (v = .other ∨ v = .lower))

theorem breaksBefore_of_extent {t : Tail} {vs : List SentenceBreak} {v : SentenceBreak}
    {rest : List SentenceBreak} (h : vs.drop (extent t vs) = v :: rest) :
    breaksBefore (tailAfter t (vs.take (extent t vs))) v rest = true := by
  induction vs generalizing t with
  | nil => simp at h
  | cons w vs ih =>
    unfold extent at h ⊢
    split
    · next now =>
      obtain ⟨rfl, rfl⟩ := List.cons.inj (by simpa [now] using h : w :: vs = v :: rest)
      exact now
    · next later =>
      rw [if_neg later] at h
      exact ih h

/-- The first sentence ends at the end of the text or at a break. -/
theorem breaksBefore_of_firstLength {vs rest : List SentenceBreak} {n : Nat} {v : SentenceBreak}
    (h : firstLength vs = some n) (hd : vs.drop n = v :: rest) :
    breaksBefore (tailAfter .plain (vs.take n)) v rest = true := by
  cases vs with
  | nil => simp [firstLength] at h
  | cons w vs =>
    obtain rfl : extent (Tail.plain.step w) vs + 1 = n := by simpa [firstLength] using h
    exact breaksBefore_of_extent hd

theorem step_of_closes {v : SentenceBreak} (h : Closes v) (t : Tail) :
    t.step v = .plain ∨ t.step v = .cased := by
  rcases h with rfl | rfl
  · left
    cases t <;> rfl
  · right
    cases t <;> rfl

theorem drop_eq_nil_of_closes {vs : List SentenceBreak} {n : Nat} {v : SentenceBreak}
    (h : firstLength vs = some n) (last : (vs.take n).getLast? = some v) (closes : Closes v) :
    vs.drop n = [] := by
  cases hd : vs.drop n with
  | nil => rfl
  | cons w rest =>
    obtain ⟨front, hfront⟩ := List.getLast?_eq_some_iff.mp last
    have asked := breaksBefore_of_firstLength h hd
    rw [hfront, tailAfter, List.foldl_append, List.foldl_cons, List.foldl_nil] at asked
    rcases step_of_closes closes (front.foldl Tail.step .plain) with plain | cased
    · rw [plain] at asked
      exact absurd asked (by simp [breaksBefore])
    · rw [cased] at asked
      exact absurd asked (by simp [breaksBefore])

/-- The default detector ends no sentence after a character that closes
what was before it, unless the text ends there. -/
theorem drop_eq_nil_of_unicode {cs : List Char} {n : Nat} {c : Char}
    (h : unicode cs = some n) (last : (cs.take n).getLast? = some c)
    (closes : Closes (SentenceBreak.ofChar (lineAsSpace c))) : cs.drop n = [] := by
  have whole := drop_eq_nil_of_closes h (v := SentenceBreak.ofChar (lineAsSpace c))
    (by rw [← List.map_take, List.getLast?_map, last, Option.map_some]) closes
  rwa [← List.map_drop, List.map_eq_nil_iff] at whole

end ObjcDecl.Text.Sentence
