import ObjcDecl.Proofs.Visit.Header
import ObjcDecl.Proofs.Visit.Implementation
import ObjcDecl.Visit.Files

/-!
# What is printed into a file

The files as they are printed, on one writer and by one visitor, are the
files as the blocks of their types make them up. The region without
warnings is opened once and closed once around the types, which neither
open nor close one.
-/

namespace ObjcDecl

variable {σ : Type}

/-! ## Regions -/

namespace Visit

/-- The visit with a region open or not. -/
def region (v : Visit σ) (isOpen : Bool) : Visit σ :=
  { v with writer := { v.writer with regionOpen := isOpen } }

variable (v : Visit σ)

@[simp] theorem context_region (b : Bool) : (v.region b).context = v.context := rfl
@[simp] theorem regionOpen_write (x : Block) :
    (v.write x).writer.regionOpen = v.writer.regionOpen := rfl
@[simp] theorem regionOpen_as (s : σ) : (v.as s).writer.regionOpen = v.writer.regionOpen := rfl
@[simp] theorem region_as (b : Bool) (s : σ) : (v.region b).as s = (v.as s).region b := rfl
@[simp] theorem write_region (b : Bool) (x : Block) :
    (v.region b).write x = (v.write x).region b := rfl

theorem region_eq_self {b : Bool} (h : v.writer.regionOpen = b) : v.region b = v := by
  subst h
  rfl

end Visit

namespace Printer

theorem run_openRegion_eq (v : Visit σ) :
    openRegion.run v = v.writer.openRegion >>= fun w => .ok ((), { v with writer := w }) := by
  simp [openRegion]

theorem run_closeRegion_eq (v : Visit σ) :
    closeRegion.run v = v.writer.closeRegion >>= fun w => .ok ((), { v with writer := w }) := by
  simp [closeRegion]

theorem run_openRegion {v : Visit σ} (wanted : v.context.options.emitDeprecated = true)
    (closed : v.writer.regionOpen = false) :
    openRegion.run v = .ok ((), (v.write DeprecationRegion.opening).region true) := by
  have wanted : v.writer.context.options.emitDeprecated = true := wanted
  rw [run_openRegion_eq, Writer.openRegion, if_pos wanted, closed]
  rfl

/-- Closing what was opened. -/
theorem run_closeRegion {v : Visit σ} (wanted : v.context.options.emitDeprecated = true)
    (closed : v.writer.regionOpen = false) :
    closeRegion.run (v.region true) = .ok ((), v.write DeprecationRegion.closing) := by
  have wanted : (v.region true).writer.context.options.emitDeprecated = true := wanted
  have isOpen : (v.region true).writer.regionOpen = true := rfl
  rw [run_closeRegion_eq, Writer.closeRegion, if_pos wanted, if_pos isOpen,
    ← (v.write DeprecationRegion.closing).region_eq_self closed]
  rfl

/-- Where no regions are wanted, there is nothing to open. -/
theorem run_openRegion_of_not {v : Visit σ} (unwanted : v.context.options.emitDeprecated = false) :
    openRegion.run v = .ok ((), v) := by
  have unwanted : v.writer.context.options.emitDeprecated = false := unwanted
  rw [run_openRegion_eq, Writer.openRegion, unwanted]
  rfl

theorem run_closeRegion_of_not {v : Visit σ}
    (unwanted : v.context.options.emitDeprecated = false) : closeRegion.run v = .ok ((), v) := by
  have unwanted : v.writer.context.options.emitDeprecated = false := unwanted
  rw [run_closeRegion_eq, Writer.closeRegion, unwanted]
  rfl

/-- What is printed in a region of its own. No region may be open before,
and none is open after. -/
theorem run_ignoringDeprecations {c : Context} {p : Printer σ Unit} {e : Emission}
    (h : PrintsAnyway c p e) {v : Visit σ} (hc : v.context = c)
    (closed : v.writer.regionOpen = false) :
    ∃ s, (ignoringDeprecations p).run v =
      (v.as s).emit (do let b ← e; pure (DeprecationRegion.around c.options b)) := by
  cases wanted : c.options.emitDeprecated with
  | false =>
    obtain ⟨s, run⟩ := h v hc
    refine ⟨s, ?_⟩
    cases e <;>
      simp [ignoringDeprecations, run_openRegion_of_not, run_closeRegion_of_not, hc, wanted, run,
        Visit.emit, DeprecationRegion.around]
  | true =>
    -- the printer starts inside the region, and a region is no part of what it depends on
    obtain ⟨s, run⟩ := h ((v.write DeprecationRegion.opening).region true) hc
    refine ⟨s, ?_⟩
    cases e <;>
      simp [ignoringDeprecations, run_openRegion, run_closeRegion, hc, wanted, closed, run,
        Visit.emit, DeprecationRegion.around]

theorem text_eq {c : Context} {s : σ} {p : Printer σ Unit} {e : Emission}
    (h : ∀ v : Visit σ, v.context = c → v.writer.regionOpen = false →
      ∃ s, p.run v = (v.as s).emit e) :
    text c s p = e.map SourceUnit.textOf := by
  obtain ⟨t, run⟩ := h ⟨s, { context := c }⟩ rfl rfl
  rw [text, run]
  cases e with
  | error f => rfl
  | ok b =>
    simp [Writer.finish, Visit.write, Visit.as, Writer.write, Sink.write, Except.map,
      SourceUnit.textOf, Sink.ofIndent]

end Printer

/-! ## Types and units -/

open Printer

/-- The header of a type alone has the block of the type. -/
theorem TypeDecl.printedHeader_eq (d : TypeDecl) (o : Options) :
    d.printedHeader o = (Header.ofType (SourceUnit.context o) d).map SourceUnit.textOf :=
  text_eq fun v hc _ => Header.Visitor.printsAnyway_type _ d v hc

theorem TypeDecl.printedImplementation_eq (d : TypeDecl) (o : Options) :
    d.printedImplementation o =
      (Implementation.ofType (SourceUnit.context o) d).map SourceUnit.textOf :=
  text_eq fun v hc _ => Implementation.Visitor.printsAnyway_type _ d v hc

namespace Header.Visitor

variable (c : Context) (u : SourceUnit) (fileName : String)

theorem run_unit {v : Visit Visitor} (hc : v.context = c) (closed : v.writer.regionOpen = false) :
    ∃ s, (unit u fileName).run v = (v.as s).emit (Header.file c u fileName) := by
  have types : PrintsAnyway c (all (u.types.map type))
      (Block.sequence (u.types.map (Header.ofType c))) :=
    printsAnyway_all fun d _ => printsAnyway_type c d
  let before := v.write (u.preamble ++
    [.flush ("#ifndef " ++ guardName fileName), .flush ("#define " ++ guardName fileName), .blank,
      .flush "#include \"J2ObjC_header.h\""])
  obtain ⟨s, run⟩ := run_ignoringDeprecations types (v := before) hc closed
  refine ⟨s, ?_⟩
  simp [unit, Header.file, (prints_preamble c _ u).run, hc, run, before, Visit.emit]

end Header.Visitor

namespace Implementation.Visitor

variable (c : Context) (u : SourceUnit) (fileName : String)

theorem run_unit {v : Visit Visitor} (hc : v.context = c) (closed : v.writer.regionOpen = false) :
    ∃ s, (unit u fileName).run v = (v.as s).emit (Implementation.file c u fileName) := by
  have types : PrintsAnyway c (all (u.types.map type))
      (Block.sequence (u.types.map (Implementation.ofType c))) :=
    printsAnyway_all fun d _ => printsAnyway_type c d
  let before := v.write (u.preamble ++
    [.flush ("#include \"" ++ fileName ++ ".h\""), .flush "#include \"J2ObjC_source.h\""])
  obtain ⟨s, run⟩ := run_ignoringDeprecations types (v := before) hc closed
  refine ⟨s, ?_⟩
  simp [unit, Implementation.file, (prints_preamble c _ u).run, hc, run, before, Visit.emit]

end Implementation.Visitor

/-- The header as it is printed is the header. -/
theorem SourceUnit.printedHeader_eq (u : SourceUnit) (o : Options) :
    u.printedHeader o = u.header o :=
  text_eq fun _ hc closed => Header.Visitor.run_unit _ u _ hc closed

/-- The implementation as it is printed is the implementation. -/
theorem SourceUnit.printedImplementation_eq (u : SourceUnit) (o : Options) :
    u.printedImplementation o = u.implementation o :=
  text_eq fun _ hc closed => Implementation.Visitor.run_unit _ u _ hc closed

end ObjcDecl
