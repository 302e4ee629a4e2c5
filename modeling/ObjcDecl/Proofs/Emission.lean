import ObjcDecl.Emit.Context

/-!
# Laws of emissions

An emission is a block of lines or the fault that stopped it, and larger
emissions are put together in two ways: by binding and by
`Block.sequence`. The laws here let a proof take such a composition apart
without looking into `Except`: a bind succeeds exactly when both of its
steps do, and a sequence of a concatenation is the two sequences in a row.
-/

namespace ObjcDecl

namespace Emission

variable {ε α β : Type}

/-- A successful step hands its value on. -/
@[simp] theorem ok_bind (a : α) (f : α → Except ε β) : (Except.ok a >>= f) = f a := (rfl)

/-- A fault ends the computation. -/
@[simp] theorem error_bind (e : ε) (f : α → Except ε β) : (Except.error e >>= f) = .error e := rfl

/-- What `throw` gives is a fault. -/
@[simp] theorem throw_eq_error (e : ε) : (throw e : Except ε α) = .error e := rfl

/-- What `pure` gives is a success. -/
@[simp] theorem pure_eq_ok (a : α) : (pure a : Except ε α) = .ok a := rfl

/-- A last step that only hands its value on can be left out. -/
@[simp] theorem bind_ok (x : Except ε α) : (x >>= fun a => .ok a) = x := by
  cases x <;> rfl

/-- A bind succeeds exactly when its first step does and the second one
does on its value. -/
theorem bind_eq_ok {x : Except ε α} {f : α → Except ε β} {b : β} :
    (x >>= f) = .ok b ↔ ∃ a, x = .ok a ∧ f a = .ok b := by
  cases x with
  | error e => simp
  | ok a => simp

/-- A mapped result is a success exactly when the result is one. -/
theorem map_eq_ok {x : Except ε α} {f : α → β} {b : β} :
    x.map f = .ok b ↔ ∃ a, x = .ok a ∧ f a = b := by
  cases x <;> simp [Except.map]

end Emission

namespace Block

variable {ε : Type}

theorem sequence_cons (e : Except ε Block) (es : List (Except ε Block)) :
    sequence (e :: es) = (do
      let b ← e
      let bs ← sequence es
      pure (b ++ bs)) := rfl

/-- A single emission in sequence is that emission. -/
theorem sequence_singleton (e : Except ε Block) : sequence [e] = e := by
  cases e with
  | error e => rfl
  | ok b => simp [sequence]

/-- The sequence of a concatenation: one sequence, then the other. -/
theorem sequence_append (xs ys : List (Except ε Block)) :
    sequence (xs ++ ys) = (do
      let a ← sequence xs
      let b ← sequence ys
      pure (a ++ b)) := by
  induction xs with
  | nil => simp [sequence]
  | cons x xs ih =>
    simp only [List.cons_append, sequence_cons, ih, bind_assoc, pure_bind, List.append_assoc]

/-- Blocks in sequence, none of which is refused. -/
theorem sequence_map_ok {α : Type} (g : α → Block) (l : List α) :
    sequence (l.map fun x => (.ok (g x) : Except ε Block)) = .ok (l.flatMap g) := by
  induction l with
  | nil => rfl
  | cons x l ih => simp [sequence_cons, ih]

/-- Blocks that are printed under a condition are printed in sequence if
all of them meet it. -/
theorem sequence_map_eq_ok_iff {α : Type} {e : α → Except ε Block} {P : α → Prop} {g : α → Block}
    (h : ∀ x b, e x = .ok b ↔ P x ∧ b = g x) {l : List α} {b : Block} :
    sequence (l.map e) = .ok b ↔ (∀ x ∈ l, P x) ∧ b = l.flatMap g := by
  induction l generalizing b with
  | nil => simp [sequence, eq_comm]
  | cons x l ih =>
    rw [List.map_cons, sequence_cons, List.forall_mem_cons, List.flatMap_cons]
    constructor
    · intro hb
      obtain ⟨first, hfirst, hb⟩ := Emission.bind_eq_ok.mp hb
      obtain ⟨rest, hrest, hb⟩ := Emission.bind_eq_ok.mp hb
      obtain ⟨hx, rfl⟩ := (h x first).mp hfirst
      obtain ⟨hl, rfl⟩ := ih.mp hrest
      cases hb
      exact ⟨⟨hx, hl⟩, rfl⟩
    · rintro ⟨⟨hx, hl⟩, rfl⟩
      rw [(h x _).mpr ⟨hx, rfl⟩, ih.mpr ⟨hl, rfl⟩]
      rfl

/-- What gives nothing can be left out of a sequence. -/
theorem sequence_map_filter {α : Type} (p : α → Bool) (e : α → Except ε Block) (l : List α) :
    sequence (l.map fun x => if p x then e x else .ok []) = sequence ((l.filter p).map e) := by
  induction l with
  | nil => rfl
  | cons x l ih =>
    cases h : p x with
    | true => simp [sequence_cons, h, ih]
    | false => simp [sequence_cons, h, ih]

/-- What has no emission can be counted as one that gives nothing. -/
theorem sequence_filterMap {α : Type} (e : α → Option (Except ε Block)) (l : List α) :
    sequence (l.filterMap e) = sequence (l.map fun x => (e x).getD (.ok [])) := by
  induction l with
  | nil => rfl
  | cons x l ih => cases h : e x <;> simp [sequence_cons, h, ih]

end Block

end ObjcDecl
