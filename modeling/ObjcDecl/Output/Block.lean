/-!
# Blocks of lines

What an emitter prints is a list of lines. A line either starts at the
margin, whatever the level of indentation, or is nested: it starts at the
current level, or deeper. A block knows nothing of the text before it;
`Block.render` places it at a level.
-/

namespace ObjcDecl

/-- A printed line, without its line end. -/
inductive Line where
  /-- A line that starts at the margin. -/
  | flush (text : String)
  /-- A line that starts `depth` levels deeper than the current one. -/
  | nested (depth : Nat) (text : String)
deriving DecidableEq, Repr

/-- What an emitter prints. -/
abbrev Block := List Line

/-- The text of `n` levels of indentation. -/
def margin (unit : String) (n : Nat) : String := String.join (List.replicate n unit)

namespace Line

/-- The empty line. -/
def blank : Line := .flush ""

/-- The line moved deeper by some levels; a flush line stays. -/
def deepen (n : Nat) : Line → Line
  | .flush t => .flush t
  | .nested d t => .nested (d + n) t

/-- The line at a level of indentation, with its line end. -/
def render (unit : String) (level : Nat) : Line → String
  | .flush t => t ++ "\n"
  | .nested d t => margin unit (level + d) ++ t ++ "\n"

end Line

namespace Block

/-- The block moved deeper by some levels. -/
def deepen (n : Nat) (b : Block) : Block := b.map (Line.deepen n)

/-- The text of the block at a level of indentation. -/
def render (unit : String) (level : Nat) (b : Block) : String :=
  String.join (b.map (Line.render unit level))

/-- Blocks one after the other, unless one of them cannot be printed: the
first such cause is reported. -/
def sequence {ε : Type} : List (Except ε Block) → Except ε Block
  | [] => .ok []
  | e :: es => do
    let b ← e
    let bs ← sequence es
    pure (b ++ bs)

/-- Two blocks in a row give two texts in a row. -/
theorem render_append (unit : String) (level : Nat) (a b : Block) :
    (a ++ b).render unit level = a.render unit level ++ b.render unit level := by
  simp only [render, List.map_append]
  induction a with
  | nil => simp
  | cons x xs ih => simp [ih, String.append_assoc]

/-- A line moved deeper and a line at a deeper level are the same text. -/
theorem render_deepen (unit : String) (level n : Nat) (b : Block) :
    (b.deepen n).render unit level = b.render unit (level + n) := by
  simp only [render, deepen, List.map_map]
  congr 1
  apply List.map_congr_left
  intro l _
  cases l with
  | flush t => rfl
  | nested d t => simp [Line.deepen, Line.render, Nat.add_comm, Nat.add_left_comm]

end Block

end ObjcDecl
