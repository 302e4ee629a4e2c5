/-!
# Cutting a text at a separator

Names, paths and selectors are cut at single characters. `splitWhere` keeps
every piece; `splitTerminated` reads the separator as the end of a piece,
so a separator at the very end opens no further piece. The laws say
that a piece holds no separator and that joining the pieces gives the text
back.
-/

namespace ObjcDecl.Text

/-- The pieces between the characters that are separators: always at
least one. -/
def splitWhere (isSep : Char → Bool) : List Char → List (List Char)
  | [] => [[]]
  | c :: cs =>
    if isSep c then [] :: splitWhere isSep cs
    else
      match splitWhere isSep cs with
      | [] => [[c]]
      | p :: ps => (c :: p) :: ps

/-- The pieces between the occurrences of one character. -/
def splitOn (sep : Char) : List Char → List (List Char) := splitWhere (· == sep)

/-- The pieces that the separator, or the end of the text, terminates:
none for the empty text. -/
def splitTerminated (sep : Char) : List Char → List (List Char)
  | [] => []
  | c :: cs =>
    if c = sep then [] :: splitTerminated sep cs
    else
      match splitTerminated sep cs with
      | [] => [[c]]
      | p :: ps => (c :: p) :: ps

/-- The pieces with the separator between neighbours. -/
def joinWith (sep : List Char) : List (List Char) → List Char
  | [] => []
  | [p] => p
  | p :: q :: ps => p ++ sep ++ joinWith sep (q :: ps)

/-- The text before and after the last separator, if there is one. -/
def breakLast (sep : Char) : List Char → Option (List Char × List Char)
  | [] => none
  | c :: cs =>
    match breakLast sep cs with
    | some (before, after) => some (c :: before, after)
    | none => if c = sep then some ([], cs) else none

/-- What follows the last separator, the whole text if there is none. -/
def afterLast (sep : Char) (cs : List Char) : List Char :=
  match breakLast sep cs with
  | some (_, after) => after
  | none => cs

/-- What precedes the last separator, nothing if there is none. -/
def beforeLast (sep : Char) (cs : List Char) : List Char :=
  match breakLast sep cs with
  | some (before, _) => before
  | none => []

/-- A text cut into pieces has at least one of them. -/
theorem splitWhere_ne_nil (isSep : Char → Bool) (cs : List Char) : splitWhere isSep cs ≠ [] := by
  cases cs with
  | nil => simp [splitWhere]
  | cons c cs =>
    unfold splitWhere
    split
    · simp
    · split <;> simp

/-- No piece holds a separator. -/
theorem not_isSep_of_mem_splitWhere {isSep : Char → Bool} {cs p : List Char}
    (h : p ∈ splitWhere isSep cs) : ∀ c ∈ p, isSep c = false := by
  induction cs generalizing p with
  | nil =>
    simp only [splitWhere, List.mem_singleton] at h
    simp [h]
  | cons c cs ih =>
    unfold splitWhere at h
    split at h
    · rcases List.mem_cons.mp h with rfl | h
      · simp
      · exact ih h
    · next hc =>
      cases hs : splitWhere isSep cs with
      | nil => exact absurd hs (splitWhere_ne_nil isSep cs)
      | cons q qs =>
        rw [hs] at h ih
        rcases List.mem_cons.mp h with rfl | h
        · intro x hx
          rcases List.mem_cons.mp hx with rfl | hx
          · simpa using hc
          · exact ih (List.mem_cons_self ..) x hx
        · exact ih (List.mem_cons_of_mem _ h)

/-- The first piece begins the text, and the others are parts of it. -/
theorem isInfix_of_splitWhere_eq_cons {isSep : Char → Bool} {cs p : List Char} {ps : List (List Char)}
    (h : splitWhere isSep cs = p :: ps) : p <+: cs ∧ ∀ q ∈ ps, q <:+: cs := by
  induction cs generalizing p ps with
  | nil =>
    simp only [splitWhere, List.cons.injEq] at h
    simp [← h.1, ← h.2]
  | cons c cs ih =>
    unfold splitWhere at h
    cases hs : splitWhere isSep cs with
    | nil => exact absurd hs (splitWhere_ne_nil isSep cs)
    | cons q qs =>
      obtain ⟨first, others⟩ := ih hs
      rw [hs] at h
      split at h
      · obtain ⟨rfl, rfl⟩ := List.cons.injEq .. ▸ h
        refine ⟨List.nil_prefix, fun r hr => ?_⟩
        rcases List.mem_cons.mp hr with rfl | hr
        · exact first.isInfix.trans (List.suffix_cons c cs).isInfix
        · exact (others r hr).trans (List.suffix_cons c cs).isInfix
      · obtain ⟨rfl, rfl⟩ := List.cons.injEq .. ▸ h
        exact ⟨List.cons_prefix_cons.mpr ⟨rfl, first⟩, fun r hr =>
          (others r hr).trans (List.suffix_cons c cs).isInfix⟩

/-- Every piece is a part of the text. -/
theorem isInfix_of_mem_splitWhere {isSep : Char → Bool} {cs p : List Char}
    (h : p ∈ splitWhere isSep cs) : p <:+: cs := by
  cases hs : splitWhere isSep cs with
  | nil => exact absurd hs (splitWhere_ne_nil isSep cs)
  | cons q qs =>
    obtain ⟨first, others⟩ := isInfix_of_splitWhere_eq_cons hs
    rw [hs] at h
    rcases List.mem_cons.mp h with rfl | h
    · exact first.isInfix
    · exact others p h

/-- Joining the pieces gives the text back. -/
theorem joinWith_splitOn (sep : Char) (cs : List Char) :
    joinWith [sep] (splitOn sep cs) = cs := by
  unfold splitOn
  induction cs with
  | nil => rfl
  | cons c cs ih =>
    have hne := splitWhere_ne_nil (· == sep) cs
    unfold splitWhere
    split
    · next h =>
      have h : c = sep := by simpa using h
      cases hs : splitWhere (· == sep) cs with
      | nil => exact absurd hs hne
      | cons p ps => rw [hs] at ih; simp [joinWith, ih, h]
    · cases hs : splitWhere (· == sep) cs with
      | nil => exact absurd hs hne
      | cons p ps =>
        rw [hs] at ih
        cases ps with
        | nil => simp only [joinWith] at ih ⊢; rw [ih]
        | cons q qs => simp only [joinWith, List.cons_append] at ih ⊢; rw [ih]

/-- A text is cut before and after a separator on its own. -/
theorem splitOn_append (sep : Char) (cs ds : List Char) :
    splitOn sep (cs ++ sep :: ds) = splitOn sep cs ++ splitOn sep ds := by
  induction cs with
  | nil => simp [splitOn, splitWhere]
  | cons c cs ih =>
    unfold splitOn at ih ⊢
    rw [List.cons_append, splitWhere, splitWhere, ih]
    split
    · rfl
    · cases hs : splitWhere (· == sep) cs with
      | nil => exact absurd hs (splitWhere_ne_nil _ _)
      | cons p ps => rfl

/-- A text without separators is one piece. -/
theorem splitOn_of_not_mem {sep : Char} {cs : List Char} (h : sep ∉ cs) :
    splitOn sep cs = [cs] := by
  unfold splitOn
  induction cs with
  | nil => rfl
  | cons c cs ih =>
    have head : (c == sep) = false := by
      simpa using fun hc : c = sep => h (hc ▸ List.mem_cons_self)
    rw [splitWhere, head, ih fun hm => h (List.mem_cons_of_mem _ hm)]
    rfl

/-- What precedes the first separator is the first piece. -/
theorem splitOn_append_cons {sep : Char} {p : List Char} (h : sep ∉ p) (cs : List Char) :
    splitOn sep (p ++ sep :: cs) = p :: splitOn sep cs := by
  rw [splitOn_append, splitOn_of_not_mem h, List.singleton_append]

/-- Cutting at the separators gives the joined pieces back. -/
theorem splitOn_joinWith {sep : Char} {ps : List (List Char)} (nonempty : ps ≠ [])
    (h : ∀ p ∈ ps, sep ∉ p) : splitOn sep (joinWith [sep] ps) = ps := by
  induction ps with
  | nil => exact absurd rfl nonempty
  | cons p ps ih =>
    have head : sep ∉ p := h p List.mem_cons_self
    cases ps with
    | nil => exact splitOn_of_not_mem head
    | cons q ps =>
      rw [joinWith, List.append_assoc, List.singleton_append, splitOn_append_cons head,
        ih (List.cons_ne_nil q ps) fun r hr => h r (List.mem_cons_of_mem _ hr)]

/-- The separator stands before every piece but the first. -/
theorem joinWith_cons (sep p : List Char) (ps : List (List Char)) :
    joinWith sep (p :: ps) = p ++ ps.flatMap (sep ++ ·) := by
  induction ps generalizing p with
  | nil => simp [joinWith]
  | cons q ps ih => rw [joinWith, ih, List.flatMap_cons, List.append_assoc, List.append_assoc]

theorem mem_joinWith {c : Char} {sep : List Char} {ps : List (List Char)}
    (h : c ∈ joinWith sep ps) : c ∈ sep ∨ ∃ p ∈ ps, c ∈ p := by
  cases ps with
  | nil => exact absurd h List.not_mem_nil
  | cons p ps =>
    rw [joinWith_cons] at h
    rcases List.mem_append.mp h with h | h
    · exact .inr ⟨p, List.mem_cons_self, h⟩
    · obtain ⟨q, hq, h⟩ := List.mem_flatMap.mp h
      rcases List.mem_append.mp h with h | h
      · exact .inl h
      · exact .inr ⟨q, List.mem_cons_of_mem _ hq, h⟩

/-- The separator stands after every piece but the last. -/
theorem joinWith_concat (sep : List Char) (ps : List (List Char)) (p : List Char) :
    joinWith sep (ps ++ [p]) = (ps.flatMap fun q => q ++ sep) ++ p := by
  induction ps with
  | nil => rfl
  | cons q ps ih =>
    rw [List.flatMap_cons, List.append_assoc, ← ih]
    cases ps <;> rfl

/-- What precedes a separator and holds none is a piece. -/
theorem splitTerminated_append_cons {sep : Char} {p : List Char} (h : sep ∉ p) (cs : List Char) :
    splitTerminated sep (p ++ sep :: cs) = p :: splitTerminated sep cs := by
  induction p with
  | nil => simp [splitTerminated]
  | cons c p ih =>
    have head : c ≠ sep := fun hc => h (hc ▸ List.mem_cons_self)
    rw [List.cons_append, splitTerminated, if_neg head,
      ih fun hm => h (List.mem_cons_of_mem _ hm)]

/-- A text without separators is one piece, unless it is empty. -/
theorem splitTerminated_of_not_mem {sep : Char} {cs : List Char} (nonempty : cs ≠ [])
    (h : sep ∉ cs) : splitTerminated sep cs = [cs] := by
  induction cs with
  | nil => exact absurd rfl nonempty
  | cons c cs ih =>
    have head : c ≠ sep := fun hc => h (hc ▸ List.mem_cons_self)
    rw [splitTerminated, if_neg head]
    cases cs with
    | nil => rfl
    | cons d cs => rw [ih (List.cons_ne_nil d cs) fun hm => h (List.mem_cons_of_mem _ hm)]

/-- Only the empty text has no pieces. -/
theorem eq_nil_of_splitTerminated {sep : Char} {cs : List Char} (h : splitTerminated sep cs = []) :
    cs = [] := by
  cases cs with
  | nil => rfl
  | cons c cs =>
    rw [splitTerminated] at h
    split at h
    · cases h
    · split at h <;> cases h

/-- What holds no separator begins the first piece if it begins the text. -/
theorem isPrefix_piece_iff {sep : Char} {w cs p : List Char} {ps : List (List Char)}
    (hw : sep ∉ w) (h : splitTerminated sep cs = p :: ps) : w <+: p ↔ w <+: cs := by
  induction cs generalizing w p ps with
  | nil => cases h
  | cons c cs ih =>
    cases w with
    | nil => simp
    | cons a w =>
      have ha : sep ≠ a := List.ne_of_not_mem_cons hw
      have hw : sep ∉ w := List.not_mem_of_not_mem_cons hw
      rw [splitTerminated] at h
      split at h
      · next hc =>
        cases h
        simp [hc, ha.symm]
      · split at h
        · next none =>
          cases h
          rw [eq_nil_of_splitTerminated none]
        · next hs =>
          cases h
          rw [List.cons_prefix_cons, List.cons_prefix_cons, ih hw hs]

/-- Texts without separators, each ended by one, are the first pieces. -/
theorem splitTerminated_flatMap_append {sep : Char} {ps : List (List Char)}
    (h : ∀ p ∈ ps, sep ∉ p) (cs : List Char) :
    splitTerminated sep ((ps.flatMap fun p => p ++ [sep]) ++ cs) = ps ++ splitTerminated sep cs := by
  induction ps with
  | nil => rfl
  | cons p ps ih =>
    rw [List.flatMap_cons, List.append_assoc, List.append_assoc, List.singleton_append,
      splitTerminated_append_cons (h p List.mem_cons_self),
      ih fun q hq => h q (List.mem_cons_of_mem _ hq), List.cons_append]

/-- Texts without separators, each ended by one, are the pieces. -/
theorem splitTerminated_flatMap {sep : Char} {ps : List (List Char)} (h : ∀ p ∈ ps, sep ∉ p) :
    splitTerminated sep (ps.flatMap fun p => p ++ [sep]) = ps := by
  simpa [splitTerminated] using splitTerminated_flatMap_append h []

/-- A text is what precedes its last separator, the separator, and what
follows it. -/
theorem eq_append_of_breakLast {sep : Char} {cs before after : List Char}
    (h : breakLast sep cs = some (before, after)) : cs = before ++ sep :: after := by
  induction cs generalizing before after with
  | nil => simp [breakLast] at h
  | cons c cs ih =>
    unfold breakLast at h
    split at h
    · next b a hb =>
      simp only [Option.some.injEq, Prod.mk.injEq] at h
      obtain ⟨rfl, rfl⟩ := h
      simp [ih hb]
    · split at h
      · next hc =>
        simp only [Option.some.injEq, Prod.mk.injEq] at h
        obtain ⟨rfl, rfl⟩ := h
        simp [hc]
      · simp at h

/-- What follows the last separator ends the text. -/
theorem afterLast_suffix (sep : Char) (cs : List Char) : afterLast sep cs <:+ cs := by
  unfold afterLast
  split
  · next before after h =>
    rw [eq_append_of_breakLast h]
    exact ⟨before ++ [sep], by simp⟩
  · exact List.suffix_refl cs

/-- A text that cannot be cut at its last separator has none. -/
theorem not_mem_of_breakLast {sep : Char} {cs : List Char} (h : breakLast sep cs = none) :
    sep ∉ cs := by
  induction cs with
  | nil => exact List.not_mem_nil
  | cons c cs ih =>
    unfold breakLast at h
    split at h
    · cases h
    · next rest =>
      split at h
      · cases h
      · next hc => exact List.not_mem_cons_of_ne_of_not_mem (Ne.symm hc) (ih rest)

/-- No separator follows the last one. -/
theorem not_mem_afterLast (sep : Char) (cs : List Char) : sep ∉ afterLast sep cs := by
  induction cs with
  | nil => exact List.not_mem_nil
  | cons c cs ih =>
    unfold afterLast at ih ⊢
    unfold breakLast
    cases rest : breakLast sep cs with
    | some p =>
      rw [rest] at ih
      exact ih
    | none =>
      have free := not_mem_of_breakLast rest
      by_cases hc : c = sep
      · simpa [hc] using free
      · simpa [hc] using ⟨Ne.symm hc, free⟩

/-- What precedes the last separator begins the text. -/
theorem beforeLast_isPrefix (sep : Char) (cs : List Char) : beforeLast sep cs <+: cs := by
  unfold beforeLast
  split
  · next before after h =>
    rw [eq_append_of_breakLast h]
    exact List.prefix_append before (sep :: after)
  · exact List.nil_prefix

end ObjcDecl.Text
