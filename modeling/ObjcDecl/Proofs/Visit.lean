import Mathlib.Data.List.Forall2
import ObjcDecl.Emit.Header
import ObjcDecl.Proofs.Emission
import ObjcDecl.Visit.Printer

/-!
# What printers print

A printer changes a visit step by step; what it amounts to is said by an
emission. `Prints c s p e` says that `p`, run by a visitor that remembers
`s`, prints the block that `e` gives at whatever level the writer is, or
stops with the same fault, and that it leaves the level, the region and
the visitor as they were. Printers that have such an emission can be put
one after the other, and the text of a member does not depend on where in
a file it stands.

The steps within a line have no emission of their own. `Visit.write` and
the laws about it put them together: a line begun by `print` is finished
by the block that follows, and what is printed between `indent` and
`unindent` is a block one level deeper.
-/

namespace ObjcDecl

variable {σ : Type}

namespace Visit

/-- The visit after a block printed at the writer's level. -/
def write (v : Visit σ) (b : Block) : Visit σ := { v with writer := v.writer.write b }

/-- The visit after one operation on the sink. -/
def apply (v : Visit σ) (s : Sink.Step) : Visit σ :=
  { v with writer := { v.writer with sink := v.writer.sink.apply s } }

/-- The visit continued by a visitor that remembers something else. -/
def as (v : Visit σ) (s : σ) : Visit σ := { v with visitor := s }

def context (v : Visit σ) : Context := v.writer.context

/-- What is left of a visit after an emission. -/
def emit (v : Visit σ) (e : Emission) : Except Fault (Unit × Visit σ) := do
  let b ← e
  pure ((), v.write b)

/-- What is left of a visit after an emission under a heading, which is
printed above the first block that is not empty, and whether it is still
to come. -/
def emitHeaded (v : Visit σ) (heading : Line) (first : Bool) (e : Emission) :
    Except Fault (Bool × Visit σ) := do
  let b ← e
  pure (first && b.isEmpty, v.write (if first then TypeDecl.headed heading b else b))

@[simp] theorem emit_ok (v : Visit σ) (b : Block) : v.emit (.ok b) = .ok ((), v.write b) := rfl

variable (v : Visit σ)

@[simp] theorem context_write (b : Block) : (v.write b).context = v.context := rfl
@[simp] theorem context_apply (s : Sink.Step) : (v.apply s).context = v.context := rfl
@[simp] theorem visitor_write (b : Block) : (v.write b).visitor = v.visitor := rfl
@[simp] theorem visitor_apply (s : Sink.Step) : (v.apply s).visitor = v.visitor := rfl
@[simp] theorem context_as (s : σ) : (v.as s).context = v.context := rfl
@[simp] theorem visitor_as (s : σ) : (v.as s).visitor = s := rfl
@[simp] theorem as_as (s t : σ) : (v.as s).as t = v.as t := rfl
@[simp] theorem as_visitor : v.as v.visitor = v := rfl

/-- What is printed and what is remembered do not touch. -/
@[simp] theorem write_as (b : Block) (s : σ) : (v.as s).write b = (v.write b).as s := rfl
@[simp] theorem apply_as (x : Sink.Step) (s : σ) : (v.as s).apply x = (v.apply x).as s := rfl

/-! ## Lines put together -/

theorem ext_sink {v w : Visit σ} (hvisitor : v.visitor = w.visitor)
    (hwriter : { v.writer with sink := {} } = { w.writer with sink := {} })
    (htext : v.writer.sink.text = w.writer.sink.text)
    (hlevel : v.writer.sink.level = w.writer.sink.level)
    (hunit : v.writer.sink.unit = w.writer.sink.unit) : v = w := by
  obtain ⟨_, ⟨_, ⟨_, _, _⟩, _⟩⟩ := v
  obtain ⟨_, ⟨_, ⟨_, _, _⟩, _⟩⟩ := w
  simp_all

@[simp] theorem write_nil : v.write [] = v := by
  refine ext_sink rfl rfl ?_ rfl rfl
  exact String.append_empty

@[simp] theorem write_write (a b : Block) : (v.write a).write b = v.write (a ++ b) := by
  refine ext_sink rfl rfl ?_ rfl rfl
  simp [write, Writer.write, Sink.write, Block.render_append, String.append_assoc]

@[simp] theorem apply_println (t : String) : v.apply (.println t) = v.write [.flush t] := by
  refine ext_sink rfl rfl ?_ rfl rfl
  simp [write, apply, Writer.write, Sink.write, Sink.apply, Sink.Step.appended, Block.render,
    Line.render]

@[simp] theorem apply_newline : v.apply .newline = v.write [.blank] := by
  refine ext_sink rfl rfl ?_ rfl rfl
  simp [write, apply, Writer.write, Sink.write, Sink.apply, Sink.Step.appended, Block.render,
    Line.render, Line.blank]

@[simp] theorem apply_line (t : String) : v.apply (.line t) = v.write [.nested 0 t] := by
  refine ext_sink rfl rfl ?_ rfl rfl
  simp [write, apply, Writer.write, Sink.write, Sink.apply, Sink.Step.appended, Block.render,
    Line.render]

/-- What is printed without a line end starts the line that follows. -/
@[simp] theorem write_print (a t : String) (b : Block) :
    (v.apply (.print a)).write (.flush t :: b) = v.write (.flush (a ++ t) :: b) := by
  refine ext_sink rfl rfl ?_ rfl rfl
  simp [write, apply, Writer.write, Sink.write, Sink.apply, Sink.Step.appended,
    Sink.Step.levelAfter, Block.render, Line.render, String.append_assoc]

@[simp] theorem write_print_blank (a : String) (b : Block) :
    (v.apply (.print a)).write (.blank :: b) = v.write (.flush a :: b) := by
  rw [Line.blank, write_print, String.append_empty]

/-- An indented line starts at the level of the writer. -/
@[simp] theorem write_printIndent (t : String) (b : Block) :
    (v.apply .printIndent).write (.flush t :: b) = v.write (.nested 0 t :: b) := by
  refine ext_sink rfl rfl ?_ rfl rfl
  simp [write, apply, Writer.write, Sink.write, Sink.apply, Sink.Step.appended,
    Sink.Step.levelAfter, Block.render, Line.render, String.append_assoc]

/-- What is printed between `indent` and `unindent` stands one level
deeper, and the level is back where it was. -/
@[simp] theorem apply_unindent (b : Block) :
    ((v.apply .indent).write b).apply .unindent = v.write (b.deepen 1) := by
  refine ext_sink rfl rfl ?_ rfl rfl
  simp [write, apply, Writer.write, Sink.write, Sink.apply, Sink.Step.appended,
    Sink.Step.levelAfter, Block.render_deepen]

end Visit

theorem TypeDecl.headed_of_ne_nil (heading : Line) {b : Block} (h : b ≠ []) :
    headed heading b = heading :: b := by
  cases b with
  | nil => exact absurd rfl h
  | cons l b => rfl

theorem TypeDecl.deepen_headed_flush (t : String) (n : Nat) (b : Block) :
    Block.deepen n (headed (.flush t) b) = headed (.flush t) (b.deepen n) := by
  cases b <;> rfl

/-! ## Running the steps -/

namespace Printer

-- In parentheses, `rfl` does not make a law a definitional one, so a row of steps is checked by
-- rewriting and not by running the printers.

@[simp] theorem run_context (v : Visit σ) :
    (context : Printer σ Context).run v = .ok (v.context, v) := (rfl)

@[simp] theorem run_remembered (v : Visit σ) :
    (remembered : Printer σ σ).run v = .ok (v.visitor, v) := (rfl)

@[simp] theorem run_remember (f : σ → σ) (v : Visit σ) :
    (remember f).run v = .ok ((), v.as (f v.visitor)) := (rfl)

@[simp] theorem run_out (s : Sink.Step) (v : Visit σ) :
    (out s).run v = .ok ((), v.apply s) := (rfl)

@[simp] theorem run_pure {α : Type} (a : α) (v : Visit σ) :
    (pure a : Printer σ α).run v = .ok (a, v) := (rfl)

@[simp] theorem run_throw {α : Type} (f : Fault) (v : Visit σ) :
    (throw f : Printer σ α).run v = .error f := (rfl)

@[simp] theorem run_liftM {α : Type} (x : Except Fault α) (v : Visit σ) :
    (liftM x : Printer σ α).run v = x >>= fun a => .ok (a, v) := (rfl)

/-- A printer prints what an emission gives and leaves the level, the
region and the visitor as they are. -/
def Prints (c : Context) (s : σ) (p : Printer σ Unit) (e : Emission) : Prop :=
  ∀ v : Visit σ, v.context = c → v.visitor = s → p.run v = v.emit e

theorem Prints.run {c : Context} {s : σ} {p : Printer σ Unit} {e : Emission}
    (h : Prints c s p e) {v : Visit σ} (hc : v.context = c) (hs : v.visitor = s) :
    p.run v = v.emit e :=
  h v hc hs

/-- A visitor that has just been told something remembers it. -/
theorem Prints.run_as {c : Context} {s : σ} {p : Printer σ Unit} {e : Emission}
    (h : Prints c s p e) {v : Visit σ} (hc : v.context = c) : p.run (v.as s) = (v.as s).emit e :=
  h (v.as s) hc rfl

/-- A printer that prints what an emission gives under a heading, unless
the heading was printed before or there is nothing to print. -/
def PrintsHeaded (heading : Line) (c : Context) (s : σ) (p : Bool → Printer σ Bool)
    (e : Emission) : Prop :=
  ∀ (first : Bool) (v : Visit σ), v.context = c → v.visitor = s →
    (p first).run v = v.emitHeaded heading first e

theorem PrintsHeaded.run {heading : Line} {c : Context} {s : σ} {p : Bool → Printer σ Bool}
    {e : Emission} (h : PrintsHeaded heading c s p e) (first : Bool) {v : Visit σ}
    (hc : v.context = c) (hs : v.visitor = s) :
    (p first).run v = v.emitHeaded heading first e :=
  h first v hc hs

variable {c : Context} {s : σ}

theorem prints_all {ps : List (Printer σ Unit)} {es : List Emission}
    (h : List.Forall₂ (Prints c s) ps es) : Prints c s (all ps) (Block.sequence es) := by
  induction h with
  | nil =>
    intro v _ _
    simp [all, Block.sequence]
  | @cons p e ps es hp _ ih =>
    intro v hc hs
    have rest : ∀ b, (all ps).run (v.write b) = (v.write b).emit (Block.sequence es) :=
      fun b => ih _ hc hs
    change (p >>= fun _ => all ps).run v = _
    simp [hp v hc hs, rest, Visit.emit, Block.sequence_cons]

/-- What is printed for each of some things is printed in a row. -/
theorem prints_forM {α : Type} {xs : List α} {p : α → Printer σ Unit} {e : α → Emission}
    (h : ∀ x ∈ xs, Prints c s (p x) (e x)) :
    Prints c s (forM xs p) (Block.sequence (xs.map e)) := by
  have each : List.Forall₂ (Prints c s) (xs.map p) (xs.map e) := by
    rw [List.forall₂_map_left_iff, List.forall₂_map_right_iff, List.forall₂_same]
    exact h
  have row : forM xs p = all (xs.map p) := by
    induction xs with
    | nil => rfl
    | cons x xs ih =>
      exact congrArg (p x >>= fun _ => ·) (ih (fun y hy => h y (List.mem_cons_of_mem _ hy))
        (List.forall₂_cons.mp each).2)
  rw [row]
  exact prints_all each

/-- Under one heading, what is printed for each of some things is printed
in a row: whoever prints first prints the heading. -/
theorem printsHeaded_foldlM {α : Type} {heading : Line} {xs : List α}
    {p : Bool → α → Printer σ Bool} {e : α → Emission}
    (h : ∀ x ∈ xs, PrintsHeaded heading c s (p · x) (e x)) :
    PrintsHeaded heading c s (xs.foldlM p) (Block.sequence (xs.map e)) := by
  induction xs with
  | nil =>
    intro first v _ _
    cases first <;> simp [Visit.emitHeaded, Block.sequence, TypeDecl.headed]
  | cons x xs ih =>
    intro first v hc hs
    have rest := ih fun y hy => h y (List.mem_cons_of_mem _ hy)
    have step := h x List.mem_cons_self
    simp only [List.foldlM_cons, StateT.run_bind, step.run first hc hs, List.map_cons,
      Block.sequence_cons, Visit.emitHeaded, bind_assoc, pure_bind]
    congr 1
    funext b
    rw [rest.run _ ((v.context_write _).trans hc) ((v.visitor_write _).trans hs),
      Visit.emitHeaded]
    congr 1
    funext bs
    -- the heading is still to come exactly if it was and `b` is empty
    cases first <;> cases b <;> simp [TypeDecl.headed]

theorem prints_forM_lines {α : Type} {xs : List α} {p : α → Printer σ Unit} {line : α → Line}
    (h : ∀ x ∈ xs, Prints c s (p x) (.ok [line x])) :
    Prints c s (forM xs p) (.ok (xs.map line)) := by
  have row := prints_forM h
  rwa [Block.sequence_map_ok, ← List.map_eq_flatMap] at row

/-- A printer that prints what an emission gives whatever the visitor
remembers. It leaves the level and the region as they are, and a visitor
that may remember something else. -/
def PrintsAnyway (c : Context) (p : Printer σ Unit) (e : Emission) : Prop :=
  ∀ v : Visit σ, v.context = c → ∃ s, p.run v = (v.as s).emit e

/-- Printers in a row that do not rely on the visitor print what their
emissions give in sequence. -/
theorem printsAnyway_all {α : Type} {xs : List α} {p : α → Printer σ Unit} {e : α → Emission}
    (h : ∀ x ∈ xs, PrintsAnyway c (p x) (e x)) :
    PrintsAnyway c (all (xs.map p)) (Block.sequence (xs.map e)) := by
  induction xs with
  | nil =>
    intro v _
    exact ⟨v.visitor, by simp [all, Block.sequence]⟩
  | cons x xs ih =>
    intro v hc
    obtain ⟨s, hs⟩ := h x List.mem_cons_self v hc
    have run : (all ((x :: xs).map p)).run v = (p x).run v >>= fun r => (all (xs.map p)).run r.2 :=
      rfl
    rw [run, hs]
    cases hx : e x with
    | error f => exact ⟨s, by simp [hx, Visit.emit, Block.sequence_cons]⟩
    | ok b =>
      -- the rest of the row starts with what the first printer left
      obtain ⟨t, ht⟩ := ih (fun y hy => h y (List.mem_cons_of_mem _ hy)) ((v.write b).as s) hc
      refine ⟨t, ?_⟩
      simp [hx, ht, Visit.emit, Block.sequence_cons]

/-! ## Members -/

/-- Hooks that print what hooks of emissions give. -/
structure HooksPrint (c : Context) (s : σ) (p : MemberHooks (Printer σ Unit))
    (e : MemberHooks Emission) : Prop where
  normalMethod : ∀ m, Prints c s (p.normalMethod m) (e.normalMethod m)
  constructor : ∀ m, Prints c s (p.constructor m) (e.constructor m)
  function : ∀ f, Prints c s (p.function f) (e.function f)
  native : ∀ n, Prints c s (p.native n) (e.native n)

namespace HooksPrint

variable {p : MemberHooks (Printer σ Unit)} {e : MemberHooks Emission} (h : HooksPrint c s p e)
include h

theorem method (m : Method) : Prints c s (p.method m) (e.method m) := by
  unfold MemberHooks.method
  cases m.isConstructor with
  | true => exact h.constructor m
  | false => exact h.normalMethod m

theorem methods (ms : List Method) :
    Prints c s (all (ms.map p.method)) (Block.sequence (ms.map e.method)) := by
  refine prints_all ?_
  rw [List.forall₂_map_left_iff, List.forall₂_map_right_iff, List.forall₂_same]
  exact fun m _ => h.method m

theorem declarations (body : List Member) :
    Prints c s (all (p.declarations body)) (Block.sequence (e.declarations body)) := by
  refine prints_all ?_
  induction body with
  | nil => exact .nil
  | cons x body ih =>
    cases x with
    | method m => exact .cons (h.method m) ih
    | native n => exact .cons (h.native n) ih
    | _ => exact ih

theorem functions (body : List Member) :
    Prints c s (all (p.functions body)) (Block.sequence (e.functions body)) := by
  refine prints_all ?_
  induction body with
  | nil => exact .nil
  | cons x body ih =>
    cases x with
    | function f => exact .cons (h.function f) ih
    | _ => exact ih

end HooksPrint

/-! ## The pieces that both files share -/

variable (c s)

theorem prints_lines (ls : List String) :
    Prints c s (lines ls) (.ok (ls.map (.nested 0 ·))) :=
  prints_forM_lines fun _ _ _ _ _ => by simp

theorem prints_docLine (l : String) : Prints c s (docLine l) (.ok [.nested 0 (" " ++ l)]) := by
  intro v _ _
  simp [docLine]

theorem prints_doc (d : Option Doc) : Prints c s (doc d) (.ok (DocComment.block c.detect d)) := by
  intro v hc hs
  cases d with
  | none => simp [doc, DocComment.block]
  | some d =>
    have lines : Prints c s (forM (DocComment.lines c.detect d) docLine)
        (.ok ((DocComment.lines c.detect d).map fun l => .nested 0 (" " ++ l))) :=
      prints_forM_lines fun l _ => prints_docLine c s l
    simp [doc, DocComment.block, lines.run, hc, hs]

theorem prints_normalMethod (m : Method) :
    Prints c s (normalMethod m) (m.normalDeclaration c) := by
  intro v hc hs
  have mark (t : String) :
      " " ++ ("OBJC_METHOD_FAMILY_NONE" ++ t) = " OBJC_METHOD_FAMILY_NONE" ++ t := by
    rw [← String.append_assoc]
    rfl
  cases synthetic : m.modifiers.isSynthetic <;>
    cases family : Attribute.needsFamilyNone (c.naming.selector m) <;>
    simp [normalMethod, Method.normalDeclaration, Attribute.familyNone, (prints_doc c s m.doc).run,
      hc, hs, synthetic, family, mark, Visit.emit, String.append_assoc]

theorem prints_constructor (m : Method) (isInner : Bool) :
    Prints c s (constructor m isInner) (m.constructorDeclaration c isInner) := by
  intro v hc hs
  simp [constructor, Method.constructorDeclaration, (prints_doc c s m.doc).run, hc, hs, Visit.emit,
    String.append_assoc]

theorem prints_native (code : Option String) :
    Prints c s (native code) (.ok (Header.nativeCode code)) := by
  intro v _ _
  cases code <;> simp [native, Header.nativeCode]

theorem prints_preamble (u : SourceUnit) : Prints c s (preamble u) (.ok u.preamble) := by
  intro v _ _
  simp [preamble, SourceUnit.preamble]

theorem prints_endDeclaration : Prints c s endDeclaration (.ok Header.ending) := by
  intro v _ _
  simp [endDeclaration, Header.ending]

/-! ## Instance variables and setters -/

/-- The printers ask which statements to skip. -/
theorem skips_eq (f : Field) (v : FieldVisibility) (o : Options) :
    (f.isStatic || !v.includes f.modifiers o) = !f.isInstanceFieldOf v o := by
  rw [Field.isInstanceFieldOf]
  cases f.isStatic <;> rfl

/-- A field statement that does not belong to the place prints nothing, not
even the heading. -/
theorem printsHeaded_fieldStatement (d : TypeDecl) (v : FieldVisibility) (f : Field) :
    PrintsHeaded (.flush " @public") c s (fieldStatement d v · f)
      (if f.isInstanceFieldOf v c.options then f.block c d.type else .ok []) := by
  intro first w hc hs
  simp only [fieldStatement, StateT.run_bind, run_context, Emission.ok_bind, hc, skips_eq]
  cases selected : f.isInstanceFieldOf v c.options with
  | false => cases first <;> simp [Visit.emitHeaded, TypeDecl.headed]
  | true =>
    cases vars : f.vars.isEmpty <;> cases first <;>
      simp [vars, Visit.emitHeaded, Field.block, Field.declaration, TypeDecl.headed_of_ne_nil,
        (prints_doc c s f.doc).run, hc, hs, String.append_assoc]

theorem prints_instanceVariables (d : TypeDecl) (v : FieldVisibility) :
    Prints c s (instanceVariables d v) (d.instanceVariables c v) := by
  intro w hc hs
  have row := printsHeaded_foldlM fun f (_ : f ∈ d.fields) => printsHeaded_fieldStatement c s d v f
  rw [Block.sequence_map_filter] at row
  simp [instanceVariables, TypeDecl.instanceVariables, TypeDecl.instanceFields, row.run, hc, hs,
    TypeDecl.deepen_headed_flush, Visit.emitHeaded, Visit.emit]

theorem printsHeaded_setter (d : TypeDecl) (f : Field) (x : Variable) :
    PrintsHeaded .blank c s (setter d f · x)
      (if !x.binding.isWeak then .ok [f.setter c.naming d.type x] else .ok []) := by
  intro first w hc hs
  cases weak : x.binding.isWeak <;> cases first <;>
    simp [setter, weak, hc, Visit.emitHeaded, TypeDecl.headed, Field.setter, String.append_assoc]

/-- The setters of a statement in its place. -/
theorem printsHeaded_statementSetters (d : TypeDecl) (v : FieldVisibility) (f : Field) :
    PrintsHeaded .blank c s (statementSetters d v · f)
      (if f.isInstanceFieldOf v c.options then .ok (f.setters c.naming d.type) else .ok []) := by
  have row := printsHeaded_foldlM fun x (_ : x ∈ f.vars) => printsHeaded_setter c s d f x
  rw [Block.sequence_map_filter, Block.sequence_map_ok, ← List.map_eq_flatMap] at row
  intro first w hc hs
  simp only [statementSetters, StateT.run_bind, run_context, Emission.ok_bind, hc]
  cases primitive : f.type.isPrimitive with
  | true => cases first <;> simp [Field.setters, primitive, Visit.emitHeaded, TypeDecl.headed]
  | false =>
    simp only [Bool.or_false, skips_eq, Field.setters, primitive]
    cases selected : f.isInstanceFieldOf v c.options with
    | false => cases first <;> simp [Visit.emitHeaded, TypeDecl.headed]
    | true => exact row.run first hc hs

theorem prints_fieldSetters (d : TypeDecl) (v : FieldVisibility) :
    Prints c s (fieldSetters d v) (.ok (d.fieldSetters c v)) := by
  have row := printsHeaded_foldlM fun f (_ : f ∈ d.fields) => printsHeaded_statementSetters c s d v f
  rw [Block.sequence_map_filter, Block.sequence_map_ok] at row
  intro w hc hs
  simp [fieldSetters, TypeDecl.fieldSetters, TypeDecl.instanceFields, row.run, hc, hs,
    Visit.emitHeaded]

end Printer

end ObjcDecl
