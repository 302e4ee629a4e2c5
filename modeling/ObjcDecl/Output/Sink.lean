import ObjcDecl.Output.Block
import ObjcDecl.Output.Indent

/-!
# The sink

The text printed so far and the level of indentation. Raw printing never
writes indentation; `printIndent` and `line` do, so a line can be started
at the current level and then put together piece by piece.
-/

namespace ObjcDecl

/-- Printed text and the level of indentation. -/
structure Sink where
  text : String := ""
  level : Nat := 0
  /-- The text of one level. -/
  unit : String := Indent.code.text
deriving Repr

/-- The operations on a sink. -/
inductive Sink.Step where
  | print (s : String)
  | println (s : String)
  | line (s : String)
  | newline
  | printIndent
  | indent
  | unindent
deriving DecidableEq, Repr

namespace Sink

/-- The empty sink of a style. -/
def ofIndent (style : Indent) : Sink := { unit := style.text }

/-- What an operation appends. -/
def Step.appended (k : Sink) : Step → String
  | .print s => s
  | .println s => s ++ "\n"
  | .line s => margin k.unit k.level ++ s ++ "\n"
  | .newline => "\n"
  | .printIndent => margin k.unit k.level
  | .indent => ""
  | .unindent => ""

/-- The level after an operation; the margin is never left to the left. -/
def Step.levelAfter (level : Nat) : Step → Nat
  | .indent => level + 1
  | .unindent => level - 1
  | _ => level

/-- The sink after one operation. -/
def apply (k : Sink) (s : Step) : Sink :=
  { k with text := k.text ++ s.appended k, level := s.levelAfter k.level }

/-- The sink after a block printed at its level. -/
def write (k : Sink) (b : Block) : Sink :=
  { k with text := k.text ++ b.render k.unit k.level }

end Sink

end ObjcDecl
