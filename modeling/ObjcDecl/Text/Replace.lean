/-!
# Replacing characters and pairs of characters

`replacePair` works from left to right and never looks again at what it
has consumed, so `/*/` holds one pair and not two.
-/

namespace ObjcDecl.Text

/-- A text with every occurrence of one character replaced by a text. -/
def replaceChar (c : Char) (into : List Char) (cs : List Char) : List Char :=
  cs.flatMap fun x => if x = c then into else [x]

/-- A text with the adjacent characters `a` and `b` replaced by a text,
wherever they stand next to each other and neither is consumed yet. -/
def replacePair (a b : Char) (into : List Char) : List Char → List Char
  | [] => []
  | [x] => [x]
  | x :: y :: cs =>
    if x = a ∧ y = b then into ++ replacePair a b into cs
    else x :: replacePair a b into (y :: cs)

end ObjcDecl.Text
