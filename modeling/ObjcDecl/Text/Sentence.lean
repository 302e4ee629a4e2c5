import ObjcDecl.Unicode.SentenceBreak

/-!
# The first sentence of a text

A detector says how many characters the first sentence of a text takes,
white space after it included. `Sentence.unicode` follows the default
sentence boundaries of Unicode (UAX #29, rules SB1 to SB998) after reading
a carriage return or line feed as a space, so wrapped text is not split
where a line ends.

The rules look back only as far as `Tail` remembers: whether the text so
far ends in a cased letter, in a paragraph separator, or in a terminator
with the closers and blanks that may follow it. They look ahead only in
one case, past a full stop to the first letter that has a case.
-/

namespace ObjcDecl.Text

open Unicode

/-- Finds the end of a text's first sentence, counted in characters. -/
abbrev SentenceDetector := List Char → Option Nat

namespace Sentence

/-- How far the text has gone past a terminator. -/
inductive Past where
  | nothing
  | closers
  | blanks
deriving DecidableEq, Repr

/-- What the text read so far ends in. -/
inductive Tail where
  | plain
  | cased
  | carriageReturn
  | separator
  /-- A full stop, with the letter before it cased or not. -/
  | fullStop (afterCased : Bool) (past : Past)
  | terminator (past : Past)
deriving DecidableEq, Repr

/-- How far the text is past a terminator once `v` is read as well, if
`v` is a closer or a blank that may follow. -/
def Past.step (p : Past) (v : SentenceBreak) : Option Past :=
  match v, p with
  | .closer, .blanks => none
  | .closer, _ => some .closers
  | .blank, _ => some .blanks
  | _, _ => none

/-- The tail after a character that does not attach to its predecessor
and continues no terminator. -/
def Tail.restart (t : Tail) (v : SentenceBreak) : Tail :=
  match v with
  | .carriageReturn => .carriageReturn
  | .lineFeed | .separator => .separator
  | .lower | .upper => .cased
  | .fullStop => .fullStop (t == .cased) .nothing
  | .terminator => .terminator .nothing
  | _ => .plain

/-- The tail after one more character. -/
def Tail.step (t : Tail) (v : SentenceBreak) : Tail :=
  if v = .attaching then t
  else
    match t with
    | .fullStop a p => match p.step v with
      | some q => .fullStop a q
      | none => t.restart v
    | .terminator p => match p.step v with
      | some q => .terminator q
      | none => t.restart v
    | _ => t.restart v

/-- Whether a small letter comes before any other letter, separator or
terminator: then a full stop was not the end of a sentence (SB8). -/
def lowerAhead : List SentenceBreak → Bool
  | [] => false
  | v :: vs =>
    match v with
    | .lower => true
    | .otherLetter | .upper | .separator | .carriageReturn | .lineFeed | .fullStop
    | .terminator => false
    | _ => lowerAhead vs

/-- Whether `v` may stand in the same sentence as the terminator before
it, whatever kind of terminator that is (SB8a, SB9, SB10). -/
def staysAfter (p : Past) : SentenceBreak → Bool
  | .continuer | .terminator | .fullStop => true
  | .blank | .separator | .carriageReturn | .lineFeed => true
  | .closer => p != .blanks
  | _ => false

/-- Whether `v` may stand in the same sentence as the full stop before
it, for the reasons that hold of full stops alone (SB6, SB7). -/
def staysAfterFullStop (afterCased : Bool) (p : Past) : SentenceBreak → Bool
  | .numeral => p == .nothing
  | .upper => afterCased && p == .nothing
  | _ => false

/-- Whether a sentence ends between a text with the given tail and what
follows, the character `v` and the rest `vs`. -/
def breaksBefore (t : Tail) (v : SentenceBreak) (vs : List SentenceBreak) : Bool :=
  match t with
  | .carriageReturn => v != .lineFeed
  | .separator => true
  | .plain | .cased => false
  | .fullStop a p =>
    !(v == .attaching || staysAfterFullStop a p v || lowerAhead (v :: vs) || staysAfter p v)
  | .terminator p => !(v == .attaching || staysAfter p v)

/-- How many more characters belong to a sentence with the given tail. -/
def extent : Tail → List SentenceBreak → Nat
  | _, [] => 0
  | t, v :: vs => if breaksBefore t v vs then 0 else extent (t.step v) vs + 1

/-- The number of characters of the first sentence, none in the empty
text. -/
def firstLength : List SentenceBreak → Option Nat
  | [] => none
  | v :: vs => some (extent (Tail.plain.step v) vs + 1)

/-- A line break read as a space. -/
def lineAsSpace (c : Char) : Char := if c = '\r' ∨ c = '\n' then ' ' else c

/-- The default detector. -/
def unicode : SentenceDetector := fun cs =>
  firstLength (cs.map fun c => SentenceBreak.ofChar (lineAsSpace c))

/-- The detector that finds no sentence anywhere. -/
def never : SentenceDetector := fun _ => none

/-- The detector that ends the sentence just past the first full stop and
finds none without a full stop. -/
def firstDot : SentenceDetector := fun cs =>
  if cs.contains '.' then some ((cs.takeWhile (· != '.')).length + 1) else none

/-- The size in bytes of the first sentence of a text. -/
def byteEnd (detect : SentenceDetector) (s : String) : Option Nat :=
  (detect s.toList).map fun n => (String.ofList (s.toList.take n)).utf8ByteSize

/-- A sentence never reaches beyond the text. -/
theorem extent_le (t : Tail) (vs : List SentenceBreak) : extent t vs ≤ vs.length := by
  induction vs generalizing t with
  | nil => simp [extent]
  | cons v vs ih =>
    unfold extent
    split
    · simp
    · simp only [List.length_cons, Nat.add_le_add_iff_right]
      exact ih _

end Sentence

end ObjcDecl.Text
