import ObjcDecl.Emit.Selector
import ObjcDecl.Naming.Prefixed

/-!
# Selectors fit their methods

A declaration can be written down if its selector has a segment for every
parameter. A method's own selector has to be given so; a derived one is so
where no name holds a colon, as the words that stand for the parameter
types are made of the names of types (`fits_selector`). The selector of an
inner type's constructor fits whatever the selector it is made from fits
(`exists_inner`).
-/

namespace ObjcDecl

open Text

/-- A text without colons. -/
def ColonFree (s : String) : Prop := ':' ∉ s.toList

instance : DecidablePred ColonFree := fun s => inferInstanceAs (Decidable (':' ∉ s.toList))

theorem ColonFree.append {a b : String} (ha : ColonFree a) (hb : ColonFree b) :
    ColonFree (a ++ b) := by
  simpa [ColonFree, String.toList_append] using ⟨ha, hb⟩

namespace Selector

/-- A selector for `n` parameters: a segment for each, ended by a colon.
Without parameters it is a name. -/
def Fits (n : Nat) (selector : String) : Prop :=
  if n = 0 then selector ≠ "" ∧ ColonFree selector
  else ∃ segments : List String, segments.length = n ∧ (∀ s ∈ segments, ColonFree s) ∧
    selector = String.join (segments.map (· ++ ":"))

theorem fits_zero {s : String} : Fits 0 s ↔ s ≠ "" ∧ ColonFree s := Iff.rfl

theorem fits_succ {n : Nat} {s : String} :
    Fits (n + 1) s ↔ ∃ segments : List String, segments.length = n + 1 ∧
      (∀ s ∈ segments, ColonFree s) ∧ s = String.join (segments.map (· ++ ":")) := Iff.rfl

/-- A name is its only segment. -/
theorem segments_of_colonFree {s : String} (nonempty : s ≠ "") (h : ColonFree s) :
    segments s = [s] := by
  have nonempty : s.toList ≠ [] := fun hs => nonempty (String.toList_eq_nil_iff.mp hs)
  rw [segments, splitTerminated_of_not_mem nonempty h, List.map_singleton, String.ofList_toList]

/-- Segments with their colons are taken apart again. -/
theorem segments_join {ss : List String} (h : ∀ s ∈ ss, ColonFree s) :
    segments (String.join (ss.map (· ++ ":"))) = ss := by
  have text : (String.join (ss.map (· ++ ":"))).toList =
      (ss.map String.toList).flatMap fun l => l ++ [':'] := by
    simp [List.flatMap_map]
  have pieces : ∀ l ∈ ss.map String.toList, ':' ∉ l := by
    intro l hl
    obtain ⟨s, hs, rfl⟩ := List.mem_map.mp hl
    exact h s hs
  rw [segments, text, splitTerminated_flatMap pieces, List.map_map]
  simp [Function.comp_def]

end Selector

/-! ## Constructors of inner types -/

/-- A text that begins a row of segments begins the first of them, if it
holds no colon. -/
theorem exists_append_of_prefix {head cs : List Char} (segment rest : List Char) (free : ':' ∉ head)
    (h : segment ++ ':' :: rest = head ++ cs) :
    ∃ tail, segment = head ++ tail ∧ cs = tail ++ ':' :: rest := by
  rcases List.append_eq_append_iff.mp h with ⟨tail, hhead, hrest⟩ | ⟨tail, hsegment, hcs⟩
  · cases tail with
    | nil => exact ⟨[], by simpa using hhead.symm, by simpa using hrest.symm⟩
    | cons c tail =>
      obtain ⟨rfl, -⟩ := List.cons.injEq .. ▸ hrest
      exact absurd (by simp [hhead]) free
  · exact ⟨tail, hsegment, hcs⟩

/-- The selector of an inner type's constructor fits what the selector of
the constructor fits, if that starts with `init`. -/
theorem Selector.exists_inner {n : Nat} {selector owner : String} (h : Fits n selector)
    (head : initHead.toList <+: selector.toList) (free : ColonFree owner) :
    ∃ t, inner selector owner = .ok t ∧ Fits n t := by
  obtain ⟨cs, hcs⟩ := head
  have result : inner selector owner = .ok (initHead ++ owner ++ String.ofList cs) := by
    rw [inner, if_pos (by simp [← hcs]), ← hcs, List.drop_left]
  refine ⟨_, result, ?_⟩
  have initFree : ColonFree initHead := by decide
  cases n with
  | zero =>
    have h := fits_zero.mp h
    have rest : ColonFree (String.ofList cs) := fun hc =>
      h.2 (by simpa [← hcs] using .inr (by simpa using hc))
    exact fits_zero.mpr ⟨by simp [initHead], (initFree.append free).append rest⟩
  | succ n =>
    obtain ⟨segments, length, segmentsFree, rfl⟩ := fits_succ.mp h
    cases segments with
    | nil => exact absurd length (by simp)
    | cons s ss =>
      -- the head is in the first segment, so the name of the owner comes into that one
      obtain ⟨tail, hs, rfl⟩ := exists_append_of_prefix s.toList
        (String.join (ss.map (· ++ ":"))).toList initFree (by simpa using hcs.symm)
      have tailFree : ColonFree (String.ofList tail) := fun hc =>
        segmentsFree s List.mem_cons_self (by rw [hs]; simpa using .inr (by simpa using hc))
      refine fits_succ.mpr ⟨(initHead ++ owner ++ String.ofList tail) :: ss, length, ?_, ?_⟩
      · intro u hu
        rcases List.mem_cons.mp hu with rfl | hu
        · exact (initFree.append free).append tailFree
        · exact segmentsFree u (List.mem_cons_of_mem _ hu)
      · apply String.toList_injective
        simp [String.append_assoc]

/-! ## Punctuation in names -/

section Punctuation

variable {c : Char} (positive : c.toNat ≠ 0) (small : c.toNat < 0x41)

include positive small

theorem not_mem_packagePrefix {s : String} (h : c ∉ s.toList) :
    c ∉ (packagePrefix s).toList := by
  rw [packagePrefix, String.toList_ofList]
  intro hm
  obtain ⟨piece, hp, hm⟩ := List.mem_flatMap.mp hm
  have free : c ∉ piece := fun hc => h ((isInfix_of_mem_splitWhere hp).subset hc)
  exact Unicode.not_mem_capitalize positive small free hm

/-- The target name of a type has no punctuation that the source name does
not have: `.` and `$` are taken out, and only `_` comes in, which stands
after the capital letters. -/
theorem Naming.Prefixed.not_mem_fullName {t : TypeRef} (h : c ∉ t.name.toList) :
    c ∉ (fullName t).toList := by
  have fixed {s : String} (letters : s.toList.all (fun x => 0x41 ≤ x.toNat) = true) :
      c ∉ s.toList := by
    intro hc
    have large := of_decide_eq_true (List.all_eq_true.mp letters c hc)
    omega
  unfold fullName
  split
  · exact fixed (by decide)
  · split
    · exact fixed (by decide)
    · have package : c ∉ t.package.toList := by
        rw [TypeRef.package, String.toList_ofList]
        exact fun hc => h ((beforeLast_isPrefix '.' _).subset hc)
      have simple : c ∉ t.simpleName.toList := by
        rw [TypeRef.simpleName, String.toList_ofList]
        exact fun hc => h ((afterLast_suffix '.' _).subset hc)
      rw [String.toList_append, List.mem_append, not_or, TypeRef.flatName, String.toList_ofList]
      refine ⟨not_mem_packagePrefix positive small package, fun hc => ?_⟩
      obtain ⟨x, hx, hflat⟩ := List.mem_map.mp hc
      split at hflat
      · rw [← hflat] at small
        exact absurd small (by decide)
      · exact simple (hflat ▸ hx)

end Punctuation

/-! ## Names without colons -/

/-- The source names in a type: its own and that of its elements. -/
def TypeRef.names : TypeRef → List String
  | .named _ n => [n]
  | .array n element => n :: element.names

/-- A type whose source names hold no colon. -/
def TypeRef.ColonFree (t : TypeRef) : Prop := ∀ n ∈ t.names, ObjcDecl.ColonFree n

instance : DecidablePred TypeRef.ColonFree := fun t =>
  inferInstanceAs (Decidable (∀ n ∈ t.names, ObjcDecl.ColonFree n))

theorem TypeRef.ColonFree.name {t : TypeRef} (h : t.ColonFree) : ObjcDecl.ColonFree t.name := by
  cases t <;> exact h _ List.mem_cons_self

theorem TypeRef.ColonFree.element {n : String} {element : TypeRef}
    (h : (TypeRef.array n element).ColonFree) : element.ColonFree :=
  fun m hm => h m (List.mem_cons_of_mem _ hm)

theorem colonFree_ofList {cs : List Char} (h : ':' ∉ cs) : ColonFree (String.ofList cs) := by
  simpa [ColonFree] using h

theorem colonFree_capitalize {s : String} (h : ColonFree s) : ColonFree (capitalize s) :=
  colonFree_ofList (Unicode.not_mem_capitalize (by decide) (by decide) h)

namespace Naming.Prefixed

theorem colonFree_variableName {name : String} (h : ColonFree name) :
    ColonFree (variableName name) := by
  unfold variableName
  split
  · exact h.append (by decide)
  · exact h

theorem colonFree_fullName {t : TypeRef} (h : ColonFree t.name) : ColonFree (fullName t) :=
  not_mem_fullName (by decide) (by decide) h

/-- The word for a type holds no colon, however deep an array it is. -/
theorem colonFree_keyword {t : TypeRef} (h : t.ColonFree) : ColonFree (keyword t) := by
  induction t with
  | named kind n =>
    have free : ColonFree n := h.name
    cases kind with
    | primitive => exact colonFree_capitalize free
    | classType => exact colonFree_fullName h.name
    | interfaceType => exact colonFree_fullName h.name
    | rootObject => exact (by decide : ColonFree "Id")
    | classHandle => exact (by decide : ColonFree "IOSClass")
  | array n element ih => exact (ih h.element).append (by decide)

/-- The segments that the words for the parameters add to a name. -/
def wordSegments : List String → List String
  | [] => []
  | w :: ws => ("With" ++ w) :: ws.map ("with" ++ ·)

theorem colonFree_wordSegments {ws : List String} (h : ∀ w ∈ ws, ColonFree w) :
    ∀ s ∈ wordSegments ws, ColonFree s := by
  cases ws with
  | nil => exact fun s hs => absurd hs List.not_mem_nil
  | cons w ws =>
    intro s hs
    rcases List.mem_cons.mp hs with rfl | hs
    · exact ColonFree.append (by decide) (h w List.mem_cons_self)
    · obtain ⟨v, hv, rfl⟩ := List.mem_map.mp hs
      exact ColonFree.append (by decide) (h v (List.mem_cons_of_mem _ hv))

theorem colonFree_words {ts : List TypeRef} (h : ∀ t ∈ ts, t.ColonFree) :
    ∀ w ∈ ts.map keyword, ColonFree w := by
  intro w hw
  obtain ⟨t, ht, rfl⟩ := List.mem_map.mp hw
  exact colonFree_keyword (h t ht)

theorem keywords_eq_join (ts : List TypeRef) :
    keywords ts = String.join ((wordSegments (ts.map keyword)).map (· ++ ":")) := by
  cases ts with
  | nil => rfl
  | cons t ts => simp [keywords, wordSegments, Function.comp_def]

/-- A name with a word for every parameter fits the parameters. -/
theorem fits_append_keywords {base : String} (nonempty : base ≠ "") (free : ColonFree base)
    {ts : List TypeRef} (h : ∀ t ∈ ts, t.ColonFree) :
    Selector.Fits ts.length (base ++ keywords ts) := by
  have segmentsFree := colonFree_wordSegments (colonFree_words h)
  cases ts with
  | nil =>
    rw [keywords, String.append_empty]
    exact Selector.fits_zero.mpr ⟨nonempty, free⟩
  | cons t ts =>
    refine Selector.fits_succ.mpr
      ⟨(base ++ ("With" ++ keyword t)) :: (ts.map keyword).map ("with" ++ ·), by simp, ?_, ?_⟩
    · intro s hs
      rcases List.mem_cons.mp hs with rfl | hs
      · exact free.append (segmentsFree _ List.mem_cons_self)
      · exact segmentsFree s (List.mem_cons_of_mem _ hs)
    · simp [keywords_eq_join, wordSegments, String.append_assoc]

end Naming.Prefixed

/-! ## Methods -/

/-- A method whose selector fits its parameters, or can be derived so. -/
structure Method.WellFormed (m : Method) : Prop where
  owner : m.owner.ColonFree
  parameters : ∀ p ∈ m.parameters, p.type.ColonFree
  name : m.isConstructor = false → m.selector = none → m.name ≠ "" ∧ ColonFree m.name
  selector : ∀ s, m.selector = some s → Selector.Fits m.parameters.length s
  /-- A selector of its own names a constructor as such. -/
  head : m.isConstructor = true → ∀ s, m.selector = some s →
    Selector.initHead.toList <+: s.toList

namespace Naming.Prefixed

theorem fits_derivedSelector {m : Method} (h : m.WellFormed) (derived : m.selector = none) :
    Selector.Fits m.parameters.length (derivedSelector m) := by
  have types : ∀ t ∈ m.parameters.map (·.type), t.ColonFree := by
    intro t ht
    obtain ⟨p, hp, rfl⟩ := List.mem_map.mp ht
    exact h.parameters p hp
  rw [← List.length_map (·.type), derivedSelector]
  cases kind : m.isConstructor with
  | true =>
    have init : ColonFree "init" := by decide
    exact fits_append_keywords (by decide) init types
  | false =>
    obtain ⟨nonempty, free⟩ := h.name kind derived
    refine fits_append_keywords ?_ (colonFree_variableName free) types
    unfold variableName
    split
    · simp
    · exact nonempty

theorem fits_fixedSelector {name selector : String} {n : Nat}
    (h : fixedSelector name n = some selector) : Selector.Fits n selector := by
  unfold fixedSelector at h
  split at h
  · cases h
    exact Selector.fits_zero.mpr (by decide)
  · cases h
    exact Selector.fits_zero.mpr (by decide)
  · cases h
    exact Selector.fits_succ.mpr ⟨["isEqual"], rfl, by decide, by decide⟩
  · cases h

/-- The selector of a method fits its parameters. -/
theorem fits_selector {m : Method} (h : m.WellFormed) :
    Selector.Fits m.parameters.length (selector m) := by
  unfold selector
  split
  · next s hs => exact h.selector s hs
  · next derived =>
    have otherwise := fits_derivedSelector h derived
    split
    · exact otherwise
    · cases fixed : fixedSelector m.name m.parameters.length with
      | none => exact otherwise
      | some s => exact fits_fixedSelector fixed

/-- The selector of a constructor starts with `init`. -/
theorem initHead_selector {m : Method} (h : m.WellFormed) (kind : m.isConstructor = true) :
    Selector.initHead.toList <+: (selector m).toList := by
  unfold selector
  split
  · next s hs => exact h.head kind s hs
  · rw [if_pos kind, derivedSelector, if_pos kind, String.toList_append]
    exact List.prefix_append _ _

end Naming.Prefixed

end ObjcDecl
