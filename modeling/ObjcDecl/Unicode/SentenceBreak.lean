import ObjcDecl.Unicode.SentenceBreak.CasedLetters
import ObjcDecl.Unicode.SentenceBreak.Marks
import ObjcDecl.Unicode.SentenceBreak.OtherLetters
import ObjcDecl.Unicode.SentenceBreak.Signs

/-!
# The sentence break property

`SentenceBreak.ofChar` gives the value of the Unicode property
`Sentence_Break` that the sentence rules look at. Characters in no table
have the value `other`.
-/

namespace ObjcDecl.Unicode

/-- The values of `Sentence_Break`. `attaching` stands for both `Extend`
and `Format`, which no rule tells apart. -/
inductive SentenceBreak where
  | carriageReturn
  | lineFeed
  | separator
  | attaching
  | blank
  | lower
  | upper
  | otherLetter
  | numeral
  | fullStop
  | terminator
  | continuer
  | closer
  | other
deriving DecidableEq, Repr

/-- The tables, in the order in which they are searched. -/
def SentenceBreak.tables : List (List Run × SentenceBreak) :=
  [(blanks, .blank), (lowerLetters, .lower), (upperLetters, .upper), (fullStops, .fullStop),
   (continuers, .continuer), (terminators, .terminator), (closers, .closer),
   (numerals, .numeral), (separators, .separator), (attachingMarks, .attaching),
   (otherLetters, .otherLetter)]

/-- The value of the first table that holds the code point. -/
def SentenceBreak.find : List (List Run × SentenceBreak) → Nat → SentenceBreak
  | [], _ => .other
  | (t, v) :: ts, n => if covered t n then v else find ts n

/-- The sentence break value of a character. -/
def SentenceBreak.ofChar (c : Char) : SentenceBreak :=
  if c = '\r' then .carriageReturn
  else if c = '\n' then .lineFeed
  else find tables c.toNat

end ObjcDecl.Unicode
