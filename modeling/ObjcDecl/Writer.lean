import ObjcDecl.Emit.Piece
import ObjcDecl.Output.Sink

/-!
# The writer

A writer is text under construction: a sink, the context of the run, and
whether a region without deprecation warnings is open. Regions do not
nest, and the text is finished only while none is open. Where the options
ask for no deprecation marks, there are no regions to open or close.
-/

namespace ObjcDecl

/-- Text under construction. -/
structure Writer where
  context : Context
  sink : Sink := Sink.ofIndent Indent.code
  regionOpen : Bool := false

/-- The operations on a writer. -/
inductive Writer.Step where
  | sink (s : Sink.Step)
  | openRegion
  | closeRegion
  /-- Operations within a region of their own. -/
  | region (steps : List Writer.Step)
  | piece (p : Piece)

namespace Writer

/-- The writer after a printed block. -/
def write (w : Writer) (b : Block) : Writer := { w with sink := w.sink.write b }

/-- The writer after the start of a region. -/
def openRegion (w : Writer) : Except Fault Writer :=
  if w.context.options.emitDeprecated then
    if w.regionOpen then .error .regionNested
    else .ok { w.write DeprecationRegion.opening with regionOpen := true }
  else .ok w

/-- The writer after the end of a region. -/
def closeRegion (w : Writer) : Except Fault Writer :=
  if w.context.options.emitDeprecated then
    if w.regionOpen then .ok { w.write DeprecationRegion.closing with regionOpen := false }
    else .error .regionNotOpen
  else .ok w

/-- The writer after a printed piece. -/
def print (w : Writer) (p : Piece) : Except Fault Writer := (p.block w.context).map w.write

mutual

/-- The writer after one operation. -/
def step (w : Writer) : Step → Except Fault Writer
  | .sink s => .ok { w with sink := w.sink.apply s }
  | .openRegion => w.openRegion
  | .closeRegion => w.closeRegion
  | .region steps => do
    let w ← w.openRegion
    let w ← run w steps
    w.closeRegion
  | .piece p => w.print p

/-- The writer after some operations. -/
def run (w : Writer) : List Step → Except Fault Writer
  | [] => .ok w
  | s :: ss => do
    let w ← step w s
    run w ss

end

/-- The finished text. -/
def finish (w : Writer) : Except Fault String :=
  if w.regionOpen then .error .regionLeftOpen else .ok w.sink.text

end Writer

end ObjcDecl
