import ObjcDecl.Emit.Dispatch
import ObjcDecl.Emit.Preamble
import ObjcDecl.Writer

/-!
# Printers

A file can be printed as its members are visited: every printer adds to
the writer it finds, raises and lowers the level of indentation, opens and
closes the region without warnings, and may remember something for the
members that are still to come. So what a printer adds can depend on all
that was printed before it.

The blocks of `ObjcDecl.Emit` say what a file holds; the printers say how
it is printed, piece by piece. Here are the steps that they are made of
and the pieces that both files share.
-/

namespace ObjcDecl

/-- A visitor, as far as it remembers anything, and the writer on which it
prints. -/
structure Visit (σ : Type) where
  visitor : σ
  writer : Writer

/-- A step of a visit: it prints, remembers something, or stops. -/
abbrev Printer (σ α : Type) := StateT (Visit σ) (Except Fault) α

namespace Printer

variable {σ : Type}

def context : Printer σ Context := do
  let v ← get
  pure v.writer.context

def remembered : Printer σ σ := do
  let v ← get
  pure v.visitor

def remember (f : σ → σ) : Printer σ Unit := modify fun v => { v with visitor := f v.visitor }

def out (s : Sink.Step) : Printer σ Unit :=
  modify fun v => { v with writer := { v.writer with sink := v.writer.sink.apply s } }

def openRegion : Printer σ Unit := do
  let v ← get
  let w ← v.writer.openRegion
  set { v with writer := w }

def closeRegion : Printer σ Unit := do
  let v ← get
  let w ← v.writer.closeRegion
  set { v with writer := w }

/-- Prints within a region of its own. -/
def ignoringDeprecations (p : Printer σ Unit) : Printer σ Unit := do
  openRegion
  p
  closeRegion

def all (ps : List (Printer σ Unit)) : Printer σ Unit := ps.forM id

def lines (ls : List String) : Printer σ Unit := ls.forM fun l => out (.line l)

def docLine (l : String) : Printer σ Unit := do
  out .printIndent
  out (.print " ")
  out (.println l)

/-- A comment in its frame, at the current level. -/
def doc : Option Doc → Printer σ Unit
  | none => pure ()
  | some d => do
    let c ← context
    out .printIndent
    out (.println "/**")
    (DocComment.lines c.detect d).forM docLine
    out .printIndent
    out (.println " */")

def normalMethod (m : Method) : Printer σ Unit := do
  let c ← context
  out .newline
  doc m.doc
  let signature ← Signature.normalMethod c.naming m
  out (.print signature)
  if !m.modifiers.isSynthetic && Attribute.needsFamilyNone (c.naming.selector m) then
    out (.print " ")
    out (.print "OBJC_METHOD_FAMILY_NONE")
  out (.print (Attribute.deprecated c.options m.annotations))
  out (.println ";")

def constructor (m : Method) (isInner : Bool) : Printer σ Unit := do
  let c ← context
  out .newline
  doc m.doc
  let signature ← Signature.constructor c.naming m isInner
  out (.print signature)
  out (.print (Attribute.deprecated c.options m.annotations))
  out (.println ";")

/-- A field statement at the current level, unless its variables do not
belong to the place. The first one is preceded by a heading; the answer is
whether the next one still is the first. -/
def fieldStatement (d : TypeDecl) (v : FieldVisibility) (first : Bool) (f : Field) :
    Printer σ Bool := do
  let c ← context
  if f.isStatic || !v.includes f.modifiers c.options then pure first
  else
    if f.vars.isEmpty then throw (.variablesMissing f.type.name d.type.name)
    if first then out (.println " @public")
    doc f.doc
    out .printIndent
    out (.print (Field.weakQualifier f.vars))
    out (.print (f.sharedType c.naming))
    out (.print " ")
    out (.print (f.declarators c.naming))
    out (.println ";")
    pure false

/-- The instance variables declared in the place, one level deeper. -/
def instanceVariables (d : TypeDecl) (v : FieldVisibility) : Printer σ Unit := do
  out .indent
  let _ ← d.fields.foldlM (fieldStatement d v) true
  out .unindent

/-- The registration of a variable's setter, unless it does not own what
it refers to. A blank line comes before the first one. -/
def setter (d : TypeDecl) (f : Field) (first : Bool) (v : Variable) : Printer σ Bool := do
  let c ← context
  if v.binding.isWeak then pure first
  else
    if first then out .newline
    out (.println ("J2OBJC_FIELD_SETTER(" ++ c.naming.fullName d.type ++ ", " ++
      c.naming.fieldName v.name ++ ", " ++ c.naming.typeText f.type ++ ")"))
    pure false

/-- The registrations of a statement, unless its variables do not belong
to the place. -/
def statementSetters (d : TypeDecl) (v : FieldVisibility) (first : Bool) (f : Field) :
    Printer σ Bool := do
  let c ← context
  if f.isStatic || f.type.isPrimitive || !v.includes f.modifiers c.options then pure first
  else f.vars.foldlM (setter d f) first

/-- The setters registered in the place, after a blank line. -/
def fieldSetters (d : TypeDecl) (v : FieldVisibility) : Printer σ Unit := do
  let _ ← d.fields.foldlM (statementSetters d v) true

def preamble (u : SourceUnit) : Printer σ Unit := do
  out (.println "//")
  out (.println "//  Generated by the objcgen translator.")
  out (.println ("//  source: " ++ u.sourcePath))
  out (.println "//")
  out .newline

/-- Target code as the file holds it, after a blank line. -/
def native : Option String → Printer σ Unit
  | none => pure ()
  | some code => do
    out .newline
    out (.println (String.ofList (Unicode.trimEnd code.toList)))

/-- The end of an interface or an implementation, after a blank line. -/
def endDeclaration : Printer σ Unit := do
  out .newline
  out (.println "@end")

/-- The text that a visitor prints on a fresh writer. -/
def text (c : Context) (visitor : σ) (p : Printer σ Unit) : Except Fault String := do
  let (_, v) ← p.run ⟨visitor, { context := c }⟩
  v.writer.finish

end Printer

end ObjcDecl
