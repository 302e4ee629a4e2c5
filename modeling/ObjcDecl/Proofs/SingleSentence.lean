import ObjcDecl.Proofs.SentenceEnd

/-!
# Text without terminators

Where no full stop and no other terminator stands, the rules ask for a break
in one place only, behind a separator of paragraphs. Carriage returns and
line feeds are read as spaces, which leaves three such separators: the next
line of the control codes, and the line and the paragraph separator. The
first sentence of such a text reaches through the first of the three, so it
is the whole text exactly if nothing stands behind any of them
(`byteEnd_unicode_iff`).
-/

namespace ObjcDecl.Text.Sentence

open Unicode

/-! ## Values of characters -/

/-- What the rules see of a character. -/
def value (c : Char) : SentenceBreak := SentenceBreak.ofChar (lineAsSpace c)

/-- A text without characters that can end a sentence. -/
def Unterminated (cs : List Char) : Prop :=
  ∀ c ∈ cs, SentenceBreak.ofChar c ≠ .fullStop ∧ SentenceBreak.ofChar c ≠ .terminator

-- Asked of the characters of the text only: there is an instance that asks it of all characters.
instance : DecidablePred Unterminated := fun cs => List.decidableBAll _ cs

/-- The separators of paragraphs that are not read as spaces. -/
def Separates (c : Char) : Prop := c = '\x85' ∨ c = '\u2028' ∨ c = '\u2029'

instance : DecidablePred Separates := fun c =>
  inferInstanceAs (Decidable (c = '\x85' ∨ c = '\u2028' ∨ c = '\u2029'))

/-- A value comes from a table that has the code point. -/
theorem exists_table_of_find (ts : List (List Run × SentenceBreak)) (n : Nat) :
    SentenceBreak.find ts n = .other ∨
      ∃ t, (t, SentenceBreak.find ts n) ∈ ts ∧ covered t n = true := by
  induction ts with
  | nil => exact .inl rfl
  | cons entry ts ih =>
    obtain ⟨t, v⟩ := entry
    unfold SentenceBreak.find
    split
    · next inside => exact .inr ⟨t, List.mem_cons_self, inside⟩
    · exact ih.imp_right fun ⟨u, hu, inside⟩ => ⟨u, List.mem_cons_of_mem _ hu, inside⟩

/-- The tables tell no line breaks, and separators in one place. -/
theorem value_of_mem_tables {t : List Run} {v : SentenceBreak} (h : (t, v) ∈ SentenceBreak.tables) :
    v ≠ .carriageReturn ∧ v ≠ .lineFeed ∧ (v = .separator → t = separators) := by
  simp only [SentenceBreak.tables, List.mem_cons, Prod.mk.injEq, List.not_mem_nil, or_false] at h
  rcases h with ⟨rfl, rfl⟩ | ⟨rfl, rfl⟩ | ⟨rfl, rfl⟩ | ⟨rfl, rfl⟩ | ⟨rfl, rfl⟩ | ⟨rfl, rfl⟩ |
    ⟨rfl, rfl⟩ | ⟨rfl, rfl⟩ | ⟨rfl, rfl⟩ | ⟨rfl, rfl⟩ | ⟨rfl, rfl⟩ <;> simp

theorem covered_separators {n : Nat} (h : covered separators n = true) :
    n = 0x85 ∨ n = 0x2028 ∨ n = 0x2029 := by
  obtain ⟨r, hr, inside⟩ := exists_covers_of_covered h
  simp only [separators, List.mem_cons, List.not_mem_nil, or_false] at hr
  rcases hr with rfl | rfl <;> simp [Run.covers] at inside <;> omega

/-- A line break has the value of a space, every other character its own. -/
theorem value_cases (c : Char) :
    value c = .blank ∨
      value c = SentenceBreak.ofChar c ∧
        value c = SentenceBreak.find SentenceBreak.tables c.toNat := by
  unfold value lineAsSpace
  split
  · exact .inl (by decide)
  · next h =>
    rw [not_or] at h
    exact .inr ⟨rfl, by rw [SentenceBreak.ofChar, if_neg h.1, if_neg h.2]⟩

theorem value_eq_separator_iff {c : Char} : value c = .separator ↔ Separates c := by
  constructor
  · intro h
    rcases value_cases c with blank | ⟨-, found⟩
    · rw [blank] at h
      cases h
    · rw [found] at h
      rcases exists_table_of_find SentenceBreak.tables c.toNat with other | ⟨t, ht, inside⟩
      · rw [other] at h
        cases h
      · obtain rfl := (value_of_mem_tables ht).2.2 h
        have number (d : Char) : c.toNat = d.toNat → c = d := Char.toNat_inj.mp
        exact (covered_separators inside).imp (number '\x85')
          (Or.imp (number '\u2028') (number '\u2029'))
  · rintro (rfl | rfl | rfl) <;> decide

/-- A value that neither ends a sentence nor breaks a line. -/
def Quiet (v : SentenceBreak) : Prop :=
  v ≠ .fullStop ∧ v ≠ .terminator ∧ v ≠ .carriageReturn ∧ v ≠ .lineFeed

theorem quiet_value {c : Char}
    (h : SentenceBreak.ofChar c ≠ .fullStop ∧ SentenceBreak.ofChar c ≠ .terminator) :
    Quiet (value c) := by
  rcases value_cases c with blank | ⟨own, found⟩
  · rw [blank]
    exact ⟨nofun, nofun, nofun, nofun⟩
  · rw [← own] at h
    refine ⟨h.1, h.2, ?_⟩
    rw [found]
    rcases exists_table_of_find SentenceBreak.tables c.toNat with other | ⟨t, ht, -⟩
    · rw [other]
      exact ⟨nofun, nofun⟩
    · exact ⟨(value_of_mem_tables ht).1, (value_of_mem_tables ht).2.1⟩

/-! ## The extent of a text -/

/-- A tail behind which nothing asks for a break. -/
def Settled (t : Tail) : Prop := t = .plain ∨ t = .cased

/-- What follows a settled tail stays in the sentence. -/
theorem extent_cons_of_settled {t : Tail} (h : Settled t) (v : SentenceBreak)
    (vs : List SentenceBreak) : extent t (v :: vs) = extent (t.step v) vs + 1 := by
  rcases h with rfl | rfl <;> rfl

/-- A tail stays settled until a separator comes. -/
theorem Settled.step {t : Tail} (h : Settled t) {v : SentenceBreak} (quiet : Quiet v) :
    v = .separator ∧ t.step v = .separator ∨ v ≠ .separator ∧ Settled (t.step v) := by
  obtain ⟨fullStop, terminator, carriageReturn, lineFeed⟩ := quiet
  rcases h with rfl | rfl <;> cases v <;> simp_all [Settled, Tail.step, Tail.restart]

/-- Nothing follows a separator in its sentence. -/
theorem extent_separator (vs : List SentenceBreak) : extent .separator vs = 0 := by
  cases vs <;> rfl

/-- A text through its first separator. -/
def paragraph : List Char → List Char
  | [] => []
  | c :: cs => if Separates c then [c] else c :: paragraph cs

theorem extent_eq {t : Tail} (h : Settled t) {cs : List Char} (quiet : ∀ c ∈ cs, Quiet (value c)) :
    extent t (cs.map value) = (paragraph cs).length := by
  induction cs generalizing t with
  | nil => rfl
  | cons c cs ih =>
    rw [List.map_cons, extent_cons_of_settled h, paragraph]
    rcases h.step (quiet c List.mem_cons_self) with ⟨separator, tail⟩ | ⟨other, settled⟩
    · rw [tail, extent_separator, if_pos (value_eq_separator_iff.mp separator)]
      rfl
    · rw [if_neg (mt value_eq_separator_iff.mpr other), List.length_cons,
        ih settled fun d hd => quiet d (List.mem_cons_of_mem _ hd)]

/-- The first sentence of a text without terminators is its first paragraph. -/
theorem unicode_eq {cs : List Char} (nonempty : cs ≠ []) (h : Unterminated cs) :
    unicode cs = some (paragraph cs).length := by
  obtain ⟨c, rest, rfl⟩ := List.exists_cons_of_ne_nil nonempty
  rw [← extent_eq (.inl rfl) fun d hd => quiet_value (h d hd)]
  rfl

/-! ## Paragraphs -/

theorem paragraph_begins (cs : List Char) : paragraph cs <+: cs := by
  induction cs with
  | nil => exact List.nil_prefix
  | cons c cs ih =>
    unfold paragraph
    split
    · exact List.prefix_append [c] cs
    · exact List.cons_prefix_cons.mpr ⟨rfl, ih⟩

/-- A paragraph is a whole text if no separator stands before its end. -/
theorem paragraph_eq_self_iff {cs : List Char} :
    paragraph cs = cs ↔ ∀ c ∈ cs.dropLast, ¬ Separates c := by
  induction cs with
  | nil => simp [paragraph]
  | cons c cs ih =>
    cases cs with
    | nil => simp [paragraph]
    | cons d ds =>
      rw [paragraph, List.dropLast_cons_cons, List.forall_mem_cons]
      split
      · next separates => simp [separates]
      · next other => simp [other, ih]

/-- The bytes of what begins a text are fewer, unless it is the whole
text. -/
theorem utf8ByteSize_eq_iff_of_prefix {s : String} {cs : List Char} (h : cs <+: s.toList) :
    (String.ofList cs).utf8ByteSize = s.utf8ByteSize ↔ cs = s.toList := by
  obtain ⟨rest, whole⟩ := h
  have split : s = String.ofList cs ++ String.ofList rest := by
    apply String.toList_injective
    simp [whole]
  constructor
  · intro same
    rw [split, String.utf8ByteSize_append] at same
    have none : String.ofList rest = "" := String.utf8ByteSize_eq_zero_iff.mp (by omega)
    simpa [none] using (congrArg String.toList split).symm
  · rintro rfl
    rw [String.ofList_toList]

/-- The first sentence of a text without terminators reaches through the
first separator, so it is the whole text exactly if every separator in it
stands at the end. -/
theorem byteEnd_unicode_iff {s : String} (nonempty : s ≠ "") (h : Unterminated s.toList) :
    byteEnd unicode s = some (String.ofList (paragraph s.toList)).utf8ByteSize ∧
      (byteEnd unicode s = some s.utf8ByteSize ↔
        ∀ c ∈ s.toList.dropLast, ¬ Separates c) := by
  have first : byteEnd unicode s =
      some (String.ofList (paragraph s.toList)).utf8ByteSize := by
    have begins := paragraph_begins s.toList
    rw [byteEnd, unicode_eq (mt String.toList_eq_nil_iff.mp nonempty) h, Option.map_some,
      ← List.prefix_iff_eq_take.mp begins]
  refine ⟨first, ?_⟩
  rw [first, Option.some_inj, utf8ByteSize_eq_iff_of_prefix (paragraph_begins _),
    paragraph_eq_self_iff]

/-- A text over three lines that ends in a separator. -/
def wrapped : String := "Returns the count\r\nof all items\nin the größte list\u2029"

/-- Line breaks do not end its sentence. -/
theorem byteEnd_unicode_wrapped :
    wrapped ≠ "" ∧ Unterminated wrapped.toList ∧
      byteEnd unicode wrapped = some wrapped.utf8ByteSize := by
  have nonempty : wrapped ≠ "" := by decide
  have unterminated : Unterminated wrapped.toList := by decide +kernel
  have whole : ∀ c ∈ wrapped.toList.dropLast, ¬ Separates c :=
    paragraph_eq_self_iff.mp (by decide)
  exact ⟨nonempty, unterminated, (byteEnd_unicode_iff nonempty unterminated).2.mpr whole⟩

/-- A text whose lines are parted by a line separator. -/
def parted : String := "Returns the count\u2028of items"

/-- The separator ends its sentence, though nothing in the text does. -/
theorem byteEnd_unicode_parted :
    parted ≠ "" ∧ Unterminated parted.toList ∧ byteEnd unicode parted = some 20 ∧
      byteEnd unicode parted ≠ some parted.utf8ByteSize := by
  decide +kernel

end ObjcDecl.Text.Sentence
