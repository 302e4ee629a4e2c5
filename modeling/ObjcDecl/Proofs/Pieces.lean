import ObjcDecl.Proofs.DocFrame

/-!
# What pieces add

A piece is printed in one of two ways: as the block of its lines, or step
by step by a printer that loops over its members and remembers what it has
printed. `Writer.Adds` says that both add the same text to a writer and
change nothing else of it. It is decided by the block alone
(`Writer.adds_iff`), so a law about the lines of a piece is a law about
what its printer leaves behind, from every writer and at every level.
-/

namespace ObjcDecl

/-- The printer of a piece. -/
def Piece.printer {σ : Type} : Piece → Printer σ Unit
  | .doc d => Printer.doc d
  | .normalMethod m => Printer.normalMethod m
  | .constructor m isInner => Printer.constructor m isInner
  | .instanceVariables d v => Printer.instanceVariables d v
  | .fieldSetters d v => Printer.fieldSetters d v
  | .function f => do
    let c ← Printer.context
    Printer.out (.println (Signature.function c.naming f))
  | .annotationConstructor ms => do
    let c ← Printer.context
    Printer.out (.println (Signature.annotationConstructor c.naming ms))

/-- The printer of a piece prints its block. -/
theorem Printer.prints_piece {σ : Type} (c : Context) (s : σ) (p : Piece) :
    Prints c s p.printer (p.block c) := by
  cases p with
  | doc d => exact prints_doc c s d
  | normalMethod m => exact prints_normalMethod c s m
  | constructor m isInner => exact prints_constructor c s m isInner
  | instanceVariables d v => exact prints_instanceVariables c s d v
  | fieldSetters d v => exact prints_fieldSetters c s d v
  | function f =>
    intro v hc _
    simp [Piece.printer, Piece.block, hc]
  | annotationConstructor ms =>
    intro v hc _
    simp [Piece.printer, Piece.block, hc]

namespace Writer

/-- A piece adds a text to a writer, and nothing else of the writer
changes. It does so as a block and step by step, whatever a visitor
remembers. -/
structure Adds (w : Writer) (p : Piece) (added : String) : Prop where
  block : w.print p = .ok (w.withAdded added)
  steps : ∀ (σ : Type) (s : σ), p.printer.run ⟨s, w⟩ = .ok ((), ⟨s, w.withAdded added⟩)

variable {w : Writer} {p : Piece} {added : String}

/-- Different texts make different writers. -/
theorem withAdded_inj {a b : String} (h : w.withAdded a = w.withAdded b) : a = b := by
  have text : (w.sink.text ++ a).toList = (w.sink.text ++ b).toList :=
    congrArg (fun u : Writer => u.sink.text.toList) h
  rw [String.toList_append, String.toList_append] at text
  exact String.toList_injective (List.append_cancel_left text)

/-- A piece that has a block adds the text of the block. -/
theorem adds_of_block {b : Block} (h : p.block w.context = .ok b) :
    w.Adds p (b.render w.sink.unit w.sink.level) where
  block := by
    rw [print, h]
    rfl
  steps σ s := by
    rw [(Printer.prints_piece w.context s p).run rfl rfl, h]
    rfl

/-- A piece adds one text at most. -/
theorem Adds.unique {other : String} (h : w.Adds p added) (h' : w.Adds p other) :
    added = other := by
  have same := h.block.symm.trans h'.block
  exact withAdded_inj (Except.ok.inj same)

/-- A piece adds the text of its block, if it has one, and nothing else. -/
theorem adds_iff :
    w.Adds p added ↔
      ∃ b, p.block w.context = .ok b ∧ added = b.render w.sink.unit w.sink.level := by
  constructor
  · intro h
    cases hb : p.block w.context with
    | error f =>
      have block := h.block
      rw [print, hb] at block
      cases block
    | ok b => exact ⟨b, rfl, h.unique (adds_of_block hb)⟩
  · rintro ⟨b, hb, rfl⟩
    exact adds_of_block hb

end Writer

end ObjcDecl
