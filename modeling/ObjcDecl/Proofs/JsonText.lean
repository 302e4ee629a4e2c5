import ObjcDecl.Json.Parser
import ObjcDecl.Json.Printer

/-!
# Texts of values are read back

What is written of a value without numbers is read as that value again,
whatever the texts in it are made of (`ofText_render`).

A string is read in two steps, so the law for strings has two parts: every
character comes back as one part of the literal (`stringParts_escapeChar`),
and the parts are put together to the characters (`assemble_cons`). Values
follow by recursion on their parts. What stands behind a value in the text
is any `rest`, and the reader has steps enough for twice the characters
that it has to read.
-/

namespace ObjcDecl.Json

mutual

/-- Whether a value is built of texts, truth values and `null`, with a name
for every member. -/
def isPlain : Json → Bool
  | .null | .bool _ | .string _ => true
  | .array js => itemsPlain js
  | .object ms => membersPlain ms
  | _ => false

/-- Whether all items are plain. -/
def itemsPlain : List Json → Bool
  | [] => true
  | j :: js => j.isPlain && itemsPlain js

/-- Whether all members are plain, with their names. -/
def membersPlain : List (Option String × Json) → Bool
  | [] => true
  | (k, j) :: ms => k.isSome && j.isPlain && membersPlain ms

end

/-! ## String literals -/

/-- A part of a literal that stands for one character by itself. -/
def StringPart.IsFor (p : StringPart) (c : Char) : Prop :=
  p = .char c ∨ p = .unit c.toNat ∧ c.toNat < 0x20

theorem hexNumber_control {n : Nat} (h : n < 0x20) :
    Text.hexNumber ['0', '0', Text.hexDigit (n / 16), Text.hexDigit (n % 16)] = some n := by
  have all : ∀ m : Fin 0x20, Text.hexNumber
      ['0', '0', Text.hexDigit (m / 16), Text.hexDigit (m % 16)] = some m.val := by decide
  exact all ⟨n, h⟩

/-- An escaped character is read as one part, which stands for it. -/
theorem stringParts_escapeChar (c : Char) {cs : List Char} {ps : List StringPart}
    {rest : List Char} (h : stringParts cs = some (ps, rest)) :
    ∃ p, stringParts (escapeChar c ++ cs) = some (p :: ps, rest) ∧ p.IsFor c := by
  have short {e c : Char} (hu : e ≠ 'u') (he : shortEscape e = some c) :
      ∃ p, stringParts ('\\' :: e :: cs) = some (p :: ps, rest) ∧ p.IsFor c := by
    refine ⟨.char c, ?_, .inl rfl⟩
    simp [stringParts, hu, he, h]
  unfold escapeChar
  -- seven characters have an escape of one letter
  iterate 7
    split
    · subst_vars
      exact short (by decide) rfl
  split
  · next control =>
    exact ⟨.unit c.toNat, by simp [stringParts, hexNumber_control control, h], .inr ⟨rfl, control⟩⟩
  · next backslash _ _ _ _ _ control =>
    exact ⟨.char c, by simp [stringParts, backslash, control, h], .inl rfl⟩

/-- A part that stands for a character is put before the others as that. -/
theorem assemble_cons {p : StringPart} {c : Char} (h : p.IsFor c) (ps : List StringPart) :
    assemble (p :: ps) = (assemble ps).map (c :: ·) := by
  rcases h with rfl | ⟨rfl, control⟩
  · rfl
  · have leading : isLeading c.toNat = false := by simp [isLeading]; omega
    have trailing : isTrailing c.toNat = false := by simp [isTrailing]; omega
    rcases ps with _ | ⟨d | m, ps⟩ <;> simp [assemble, leading, trailing]

/-- The characters of a literal are read as parts that are put together to
them. -/
theorem stringParts_flatMap (s rest : List Char) :
    ∃ ps, stringParts (s.flatMap escapeChar ++ '"' :: rest) = some (ps, rest) ∧
      assemble ps = some s := by
  induction s with
  | nil => exact ⟨[], by simp [stringParts], rfl⟩
  | cons c s ih =>
    obtain ⟨ps, parts, text⟩ := ih
    obtain ⟨p, first, hp⟩ := stringParts_escapeChar c parts
    exact ⟨p :: ps, by simpa using first, by simp [assemble_cons hp, text]⟩

theorem toList_quote (s : String) :
    (quote s).toList = '"' :: (s.toList.flatMap escapeChar ++ ['"']) := by
  simp [quote]

/-- A literal is read as the text that was written, up to its quote. -/
theorem stringLiteral_quote (s : String) (rest : List Char) :
    stringLiteral (s.toList.flatMap escapeChar ++ '"' :: rest) = some (some s, rest) := by
  obtain ⟨ps, parts, text⟩ := stringParts_flatMap s.toList rest
  simp [stringLiteral, parts, text]

/-! ## Values -/

/-- The characters at which a plain value starts. -/
def starters : List Char := ['n', 't', 'f', '"', '[', '\x7b']

theorem skipSpace_cons {c : Char} (h : c ∈ starters) (cs : List Char) :
    skipSpace (c :: cs) = c :: cs := by
  simp only [starters, List.mem_cons, List.not_mem_nil, or_false] at h
  rcases h with rfl | rfl | rfl | rfl | rfl | rfl <;> rfl

theorem skipSpace_quote (s : String) (cs : List Char) :
    skipSpace ((quote s).toList ++ cs) = '"' :: (s.toList.flatMap escapeChar ++ '"' :: cs) := by
  rw [toList_quote, List.cons_append, skipSpace_cons (by decide), List.append_assoc]
  rfl

theorem toList_render_array (j : Json) (js : List Json) : (render (.array (j :: js))).toList =
    '[' :: ((render j).toList ++ ((renderItems js).toList ++ [']'])) := by
  simp [render]

theorem toList_render_object (k : String) (j : Json) (ms : List (Option String × Json)) :
    (render (.object ((some k, j) :: ms))).toList =
      '\x7b' :: ((quote k).toList ++ ':' ::
        ((render j).toList ++ ((renderMembers ms).toList ++ ['\x7d']))) := by
  simp [render, renderName]

theorem exists_render_eq_cons {j : Json} (h : j.isPlain = true) :
    ∃ c ∈ starters, ∃ cs, (render j).toList = c :: cs := by
  match j, h with
  | .null, _ => exact ⟨'n', by decide, _, rfl⟩
  | .bool true, _ => exact ⟨'t', by decide, _, rfl⟩
  | .bool false, _ => exact ⟨'f', by decide, _, rfl⟩
  | .string s, _ => exact ⟨'"', by decide, _, toList_quote s⟩
  | .array [], _ => exact ⟨'[', by decide, _, rfl⟩
  | .array (j :: js), _ => exact ⟨'[', by decide, _, toList_render_array j js⟩
  | .object [], _ => exact ⟨'\x7b', by decide, _, rfl⟩
  | .object ((some k, j) :: ms), _ => exact ⟨'\x7b', by decide, _, toList_render_object k j ms⟩

/-- The text of a value is read as the value, whatever stands behind it. -/
def ReadsBack (j : Json) : Prop :=
  ∀ (fuel : Nat) (rest : List Char), 2 * (render j).toList.length ≤ fuel →
    value fuel ((render j).toList ++ rest) = (j, some rest)

/-- A bracket that the text of a value follows opens items. -/
theorem value_array {j : Json} (h : j.isPlain = true) (fuel : Nat) (cs : List Char) :
    value (fuel + 1) ('[' :: ((render j).toList ++ cs)) =
      (.array (items fuel ((render j).toList ++ cs)).1,
        (items fuel ((render j).toList ++ cs)).2) := by
  obtain ⟨c, hc, text, ht⟩ := exists_render_eq_cons h
  have bracket : c ≠ ']' := by rintro rfl; exact absurd hc (by decide)
  have opened : skipSpace ('[' :: c :: (text ++ cs)) = '[' :: c :: (text ++ cs) :=
    skipSpace_cons (by decide) _
  simp only [ht, List.cons_append, value, opened, skipSpace_cons hc]
  split
  · next heq => exact absurd (List.cons.inj heq).1 bracket
  · rfl

/-- A brace that a name follows opens members. -/
theorem value_object (k : String) (fuel : Nat) (cs : List Char) :
    value (fuel + 1) ('\x7b' :: ((quote k).toList ++ cs)) =
      (.object (members fuel ((quote k).toList ++ cs)).1,
        (members fuel ((quote k).toList ++ cs)).2) := by
  have opened (cs : List Char) : skipSpace ('\x7b' :: cs) = '\x7b' :: cs :=
    skipSpace_cons (by decide) cs
  simp only [value, opened, skipSpace_quote]
  rw [toList_quote, List.cons_append, List.append_assoc]
  rfl

/-- Behind an item that is read back stands another one, or the end. -/
theorem items_cons {j : Json} (h : ReadsBack j) {fuel : Nat} (cs : List Char)
    (enough : 2 * (render j).toList.length ≤ fuel) :
    items (fuel + 1) ((render j).toList ++ ',' :: cs) =
        (j :: (items fuel cs).1, (items fuel cs).2) ∧
      items (fuel + 1) ((render j).toList ++ ']' :: cs) = ([j], some cs) := by
  constructor <;> rw [items, h _ _ enough] <;> rfl

/-- So it is with members. -/
theorem members_cons {j : Json} (h : ReadsBack j) (k : String) {fuel : Nat} (cs : List Char)
    (enough : 2 * (render j).toList.length ≤ fuel) :
    members (fuel + 1) ((quote k).toList ++ ':' :: ((render j).toList ++ ',' :: cs)) =
        ((some k, j) :: (members fuel cs).1, (members fuel cs).2) ∧
      members (fuel + 1) ((quote k).toList ++ ':' :: ((render j).toList ++ '\x7d' :: cs)) =
        ([(some k, j)], some cs) := by
  simp only [members, skipSpace_quote, stringLiteral_quote]
  constructor <;> simp [skipSpace, h _ _ enough]

/-- The steps that the text of a value allows are not none. -/
theorem exists_fuel {j : Json} (h : j.isPlain = true) {fuel : Nat}
    (enough : 2 * (render j).toList.length ≤ fuel) : ∃ m, fuel = m + 1 := by
  obtain ⟨c, -, cs, ht⟩ := exists_render_eq_cons h
  rw [ht, List.length_cons] at enough
  exact Nat.exists_eq_add_of_le' (show 1 ≤ fuel by omega)

theorem readsBack_string (s : String) : ReadsBack (.string s) := by
  intro fuel rest enough
  obtain ⟨fuel, rfl⟩ := exists_fuel rfl enough
  simp only [render, value, skipSpace_quote, stringLiteral_quote]
  rfl

/-- Words and empty brackets take one step. -/
theorem readsBack_word {j : Json} (h : j.isPlain = true)
    (word : ∀ fuel rest, value (fuel + 1) ((render j).toList ++ rest) = (j, some rest)) :
    ReadsBack j := by
  intro fuel rest enough
  obtain ⟨fuel, rfl⟩ := exists_fuel h enough
  exact word fuel rest

-- An array takes one step and each of its items one more, and all of them
-- have a bracket or comma of their own to take it from.
mutual

/-- What is written of a plain value is read as that value. -/
theorem readsBack : ∀ {j : Json}, j.isPlain = true → ReadsBack j
  | .null, h => readsBack_word h fun _ _ => rfl
  | .bool true, h => readsBack_word h fun _ _ => rfl
  | .bool false, h => readsBack_word h fun _ _ => rfl
  | .string s, _ => readsBack_string s
  | .array [], h => readsBack_word h fun _ _ => rfl
  | .object [], h => readsBack_word h fun _ _ => rfl
  | .array (j :: js), h => by
    intro fuel rest enough
    obtain ⟨fuel, rfl⟩ := exists_fuel h enough
    simp only [isPlain, itemsPlain, Bool.and_eq_true] at h
    rw [toList_render_array] at enough ⊢
    simp only [List.length_cons, List.length_append, List.length_nil] at enough
    simp only [List.cons_append, List.append_assoc, List.nil_append]
    rw [value_array h.1, items_render h.2 _ (readsBack h.1) _ rest (by omega)]
  | .object ((some k, j) :: ms), h => by
    intro fuel rest enough
    obtain ⟨fuel, rfl⟩ := exists_fuel h enough
    simp only [isPlain, membersPlain, Bool.and_eq_true] at h
    rw [toList_render_object] at enough ⊢
    simp only [List.length_cons, List.length_append, List.length_nil] at enough
    simp only [List.cons_append, List.append_assoc, List.nil_append]
    rw [value_object, members_render h.2 k _ (readsBack h.1.2) _ rest (by omega)]

theorem items_render : ∀ {js : List Json}, itemsPlain js = true → ∀ j : Json, ReadsBack j →
    ∀ (fuel : Nat) (rest : List Char),
      2 * ((render j).toList.length + (renderItems js).toList.length) + 1 ≤ fuel →
        items fuel ((render j).toList ++ ((renderItems js).toList ++ ']' :: rest)) =
          (j :: js, some rest)
  | [], _ => by
    intro j hj fuel rest enough
    obtain ⟨fuel, rfl⟩ := Nat.exists_eq_add_of_le' (show 1 ≤ fuel by omega)
    simpa [renderItems] using (items_cons hj rest (by omega)).2
  | i :: js, h => by
    intro j hj fuel rest enough
    simp only [itemsPlain, Bool.and_eq_true] at h
    have text : (renderItems (i :: js)).toList =
        ',' :: ((render i).toList ++ (renderItems js).toList) := by simp [renderItems]
    rw [text] at enough ⊢
    simp only [List.length_cons, List.length_append] at enough
    obtain ⟨fuel, rfl⟩ := Nat.exists_eq_add_of_le' (show 1 ≤ fuel by omega)
    rw [List.cons_append, List.append_assoc, (items_cons hj _ (by omega)).1,
      items_render h.2 _ (readsBack h.1) _ rest (by omega)]

theorem members_render : ∀ {ms : List (Option String × Json)}, membersPlain ms = true →
    ∀ (k : String) (j : Json), ReadsBack j → ∀ (fuel : Nat) (rest : List Char),
      2 * ((quote k).toList.length + (render j).toList.length + (renderMembers ms).toList.length)
          + 1 ≤ fuel →
        members fuel ((quote k).toList ++ ':' ::
            ((render j).toList ++ ((renderMembers ms).toList ++ '\x7d' :: rest))) =
          ((some k, j) :: ms, some rest)
  | [], _ => by
    intro k j hj fuel rest enough
    obtain ⟨fuel, rfl⟩ := Nat.exists_eq_add_of_le' (show 1 ≤ fuel by omega)
    simpa [renderMembers] using (members_cons hj k rest (by omega)).2
  | (some l, i) :: ms, h => by
    intro k j hj fuel rest enough
    simp only [membersPlain, Bool.and_eq_true] at h
    have text : (renderMembers ((some l, i) :: ms)).toList =
        ',' :: ((quote l).toList ++ ':' :: ((render i).toList ++ (renderMembers ms).toList)) := by
      simp [renderMembers, renderName]
    rw [text] at enough ⊢
    simp only [List.length_cons, List.length_append] at enough
    obtain ⟨fuel, rfl⟩ := Nat.exists_eq_add_of_le' (show 1 ≤ fuel by omega)
    simp only [List.cons_append, List.append_assoc]
    rw [(members_cons hj k _ (by omega)).1,
      members_render h.2 l _ (readsBack h.1.2) _ rest (by omega)]

end

/-- A plain value is what its text says, and nothing stands behind it. -/
theorem ofText_render {j : Json} (h : j.isPlain = true) : ofText (render j) = ⟨j, true⟩ := by
  have whole : value (2 * (render j).toList.length + 2) ((render j).toList ++ []) = (j, some []) :=
    readsBack h _ [] (by omega)
  rw [List.append_nil] at whole
  simp [ofText, whole, skipSpace]

end ObjcDecl.Json
