import ObjcDecl.Proofs.Pieces
import ObjcDecl.Proofs.Visit.Header
import ObjcDecl.Proofs.Visit.Implementation

/-!
# Emitters are framed

An emitter prints onto a writer that others have printed on before. It
raises and lowers the level of indentation by hand, in nested places and
under conditions, and lowering it at the margin is not noticed. Emitters
can be put one after the other only if each hands the writer on as it
found it, with some text added, and if that text does not depend on what
was printed before.

An `Addition` is such a text: it sees the context, the text of one level
and the level, and nothing else of a writer. `Printer.Framed` says that a
printer adds an addition and changes nothing else, whatever the visitor
remembers, and stops where the addition stops. What is framed can be put
in a row (`Printer.Framed.all`), and every emitter is framed, with the
lines it stands for as the addition (`emitters_framed`).
-/

namespace ObjcDecl

/-! ## Additions -/

/-- What is added to a text: by the context, the text of one level of
indentation, and the level. -/
abbrev Addition := Context → String → Nat → Except Fault String

namespace Addition

/-- The text of what an emission gives, at every level. -/
def ofEmission (e : Context → Emission) : Addition := fun c unit level =>
  (e c).map (Block.render unit level)

/-- Additions one after the other, all at one level. -/
def row : List Addition → Addition
  | [], _, _, _ => .ok ""
  | a :: as, c, unit, level => do
    let t ← a c unit level
    let ts ← row as c unit level
    pure (t ++ ts)

/-- What an addition gives at the level of a writer. -/
def onto (a : Addition) (w : Writer) : Except Fault String :=
  a w.context w.sink.unit w.sink.level

variable {w : Writer}

/-- An addition does not see what was added before it. -/
theorem onto_withAdded (a : Addition) (t : String) : a.onto (w.withAdded t) = a.onto w := rfl

theorem onto_row_cons (a : Addition) (as : List Addition) :
    (row (a :: as)).onto w = (do
      let t ← a.onto w
      let ts ← (row as).onto w
      pure (t ++ ts)) := rfl

end Addition

theorem Writer.withAdded_empty (w : Writer) : w.withAdded "" = w := by
  obtain ⟨_, ⟨_, _, _⟩, _⟩ := w
  simp [withAdded]

theorem Writer.withAdded_withAdded (w : Writer) (a b : String) :
    (w.withAdded a).withAdded b = w.withAdded (a ++ b) := by
  simp [withAdded, String.append_assoc]

/-! ## Framed printers -/

variable {σ : Type}

namespace Printer

/-- The writer that a printer leaves behind. -/
def leaves (p : Printer σ Unit) (s : σ) (w : Writer) : Except Fault Writer :=
  (p.run ⟨s, w⟩).map fun r => r.2.writer

/-- A printer adds an addition to every writer and changes nothing else of
it, whatever the visitor remembers. -/
def Framed (p : Printer σ Unit) (a : Addition) : Prop :=
  ∀ (s : σ) (w : Writer), p.leaves s w = (a.onto w).map w.withAdded

variable {p : Printer σ Unit} {a : Addition} {s : σ} {w w' : Writer}

/-- A framed printer leaves what was printed as a prefix, and the level,
the context and the region as they were. -/
theorem Framed.keeps (h : p.Framed a) (ok : p.leaves s w = .ok w') :
    w.sink.text.toList <+: w'.sink.text.toList ∧ w'.sink.level = w.sink.level ∧
      w'.context = w.context ∧ w'.regionOpen = w.regionOpen := by
  rw [h s w] at ok
  obtain ⟨added, -, rfl⟩ := Emission.map_eq_ok.mp ok
  exact ⟨⟨added.toList, String.toList_append.symm⟩, rfl, rfl, rfl⟩

/-- A printer that prints an emission in every context is framed by it. -/
theorem PrintsAnyway.framed {e : Context → Emission} (h : ∀ c, PrintsAnyway c p (e c)) :
    p.Framed (.ofEmission e) := by
  intro s w
  obtain ⟨s', run⟩ := h w.context ⟨s, w⟩ rfl
  rw [leaves, run, Addition.onto, Addition.ofEmission]
  cases e w.context with
  | error f => rfl
  | ok b => rfl

/-- What is printed by every visitor, and leaves it as it was, is printed
anyway. -/
theorem PrintsAnyway.of_prints {c : Context} {e : Emission} (h : ∀ s, Prints c s p e) :
    PrintsAnyway c p e :=
  fun v hc => ⟨v.visitor, (h v.visitor).run hc rfl⟩

/-! ## Rows of printers -/

/-- What follows a printer finds the writer that the printer leaves, and a
visitor that may remember something else. -/
theorem leaves_all_cons (p : Printer σ Unit) (ps : List (Printer σ Unit)) (s : σ) (w : Writer) :
    ∃ s', (all (p :: ps)).leaves s w = p.leaves s w >>= (all ps).leaves s' := by
  have run : (all (p :: ps)).run ⟨s, w⟩ = p.run ⟨s, w⟩ >>= fun r => (all ps).run r.2 := rfl
  cases h : p.run ⟨s, w⟩ with
  | error f => exact ⟨s, by rw [leaves, leaves, run, h]; rfl⟩
  | ok r =>
    obtain ⟨⟨⟩, s', w'⟩ := r
    exact ⟨s', by rw [leaves, leaves, run, h]; rfl⟩

/-- Framed printers in a row are framed by their additions in a row. -/
theorem Framed.all {α : Type} {xs : List α} {p : α → Printer σ Unit} {a : α → Addition}
    (h : ∀ x ∈ xs, (p x).Framed (a x)) :
    (Printer.all (xs.map p)).Framed (Addition.row (xs.map a)) := by
  induction xs with
  | nil =>
    intro s w
    exact congrArg Except.ok w.withAdded_empty.symm
  | cons x xs ih =>
    intro s w
    have step := h x List.mem_cons_self s w
    have rest := ih fun y hy => h y (List.mem_cons_of_mem x hy)
    obtain ⟨s', run⟩ := leaves_all_cons (p x) (xs.map p) s w
    rw [List.map_cons, List.map_cons, run, step, Addition.onto_row_cons]
    cases (a x).onto w with
    | error f => rfl
    | ok t =>
      -- the rest does not notice what has been added
      have rest := rest s' (w.withAdded t)
      rw [Addition.onto_withAdded] at rest
      refine rest.trans ?_
      cases (Addition.row (xs.map a)).onto w with
      | error f => rfl
      | ok ts => exact congrArg Except.ok (w.withAdded_withAdded t ts)

end Printer

/-! ## Emitters -/

/-- What prints onto a writer: a piece, or a type in the style of a file. -/
inductive Emitter where
  | piece (p : Piece)
  | type (d : TypeDecl)

namespace Emitter

/-- The printer of an emitter, with that of types in the style of a file. -/
def printer (ofType : TypeDecl → Printer σ Unit) : Emitter → Printer σ Unit
  | .piece p => p.printer
  | .type d => ofType d

/-- The lines of an emitter, with those of types in the style of a file. -/
def block (ofType : Context → TypeDecl → Emission) (e : Emitter) (c : Context) : Emission :=
  match e with
  | .piece p => p.block c
  | .type d => ofType c d

/-- What an emitter adds: its lines, at every level. -/
def addition (ofType : Context → TypeDecl → Emission) (e : Emitter) : Addition :=
  .ofEmission (e.block ofType)

/-- If the types of a file are printed anyway, then every emitter is
framed. -/
theorem framed {printed : TypeDecl → Printer σ Unit} {lines : Context → TypeDecl → Emission}
    (types : ∀ c d, Printer.PrintsAnyway c (printed d) (lines c d)) (e : Emitter) :
    (e.printer printed).Framed (e.addition lines) := by
  refine Printer.PrintsAnyway.framed fun c => ?_
  cases e with
  | piece p => exact .of_prints fun s => Printer.prints_piece c s p
  | type d => exact types c d

end Emitter

/-- The emitters of a file are framed. -/
structure FramedEmitters (printed : TypeDecl → Printer σ Unit)
    (lines : Context → TypeDecl → Emission) : Prop where
  each : ∀ e : Emitter, (e.printer printed).Framed (e.addition lines)
  /-- Emitters in a row add what each of them adds, one after the other. -/
  rows : ∀ es : List Emitter,
    (Printer.all (es.map (Emitter.printer printed))).Framed
      (Addition.row (es.map (Emitter.addition lines)))
  /-- What was printed is a prefix of what is left behind. -/
  keeps : ∀ (e : Emitter) (s : σ) (w w' : Writer), (e.printer printed).leaves s w = .ok w' →
    w.sink.text.toList <+: w'.sink.text.toList ∧ w'.sink.level = w.sink.level ∧
      w'.context = w.context ∧ w'.regionOpen = w.regionOpen

theorem FramedEmitters.of_types {printed : TypeDecl → Printer σ Unit}
    {lines : Context → TypeDecl → Emission}
    (types : ∀ c d, Printer.PrintsAnyway c (printed d) (lines c d)) :
    FramedEmitters printed lines where
  each := Emitter.framed types
  rows _ := .all fun e _ => e.framed types
  keeps e _ _ _ := (e.framed types).keeps

/-- Every emitter of both files is framed: pieces and types of every kind,
alone and in a row, from every writer and every visitor. So are the pieces
that a writer prints as blocks. -/
theorem emitters_framed :
    FramedEmitters Header.Visitor.type Header.ofType ∧
      FramedEmitters Implementation.Visitor.type Implementation.ofType ∧
      ∀ (p : Piece) (w : Writer),
        w.print p = ((Addition.ofEmission p.block).onto w).map w.withAdded := by
  refine ⟨.of_types Header.Visitor.printsAnyway_type,
    .of_types Implementation.Visitor.printsAnyway_type, fun p w => ?_⟩
  rw [Writer.print, Addition.onto, Addition.ofEmission]
  cases p.block w.context with
  | error f => rfl
  | ok b => rfl

end ObjcDecl
