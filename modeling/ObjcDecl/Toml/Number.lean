import ObjcDecl.Text.Digit
import ObjcDecl.Text.Split

/-!
# Numbers

A number is kept as it is written and nothing is computed from it, so it
is its form alone that is checked. An integer has a base and, in base ten,
may have a sign; a float has a point, an exponent or both. Underscores cut
a number into groups, which are looked at where they meet: the form of a
grouped integer in base ten is otherwise open, and the digits after the
mark of a base may be missing.
-/

namespace ObjcDecl.Toml

open Text

/-- Whether a character is a hexadecimal digit. -/
def isHexDigit (c : Char) : Bool := (hexValue c).isSome

/-- A text without the sign at its head. -/
def dropSign : List Char → List Char
  | '+' :: cs => cs
  | '-' :: cs => cs
  | cs => cs

/-! ## Groups -/

/-- Whether the first character is a digit; there has to be one. -/
def startsWithDigit (isDigit : Char → Bool) (g : List Char) : Bool :=
  match g.head? with
  | some c => isDigit c
  | none => false

/-- Whether the last character is a digit; there has to be one. -/
def endsWithDigit (isDigit : Char → Bool) (g : List Char) : Bool :=
  match g.getLast? with
  | some c => isDigit c
  | none => false

/-- Whether the groups after the first one start with digits, and end with
digits where another one follows. -/
def laterGroupsMeet (isDigit : Char → Bool) : List (List Char) → Bool
  | [] => true
  | [g] => startsWithDigit isDigit g
  | g :: h :: gs =>
    startsWithDigit isDigit g && endsWithDigit isDigit g && laterGroupsMeet isDigit (h :: gs)

/-- Whether every underscore stands between two digits. A single character
before the first one may also be a sign. -/
def isGrouped (isDigit : Char → Bool) (cs : List Char) : Bool :=
  match splitOn '_' cs with
  | [] => true
  | [_] => true
  | g :: h :: gs =>
    (g.length == 1 || endsWithDigit isDigit g) && laterGroupsMeet isDigit (h :: gs)

/-! ## Integers in other bases -/

/-- Whether a text is digits of a base, in groups. -/
def isCoded (isDigit : Char → Bool) (cs : List Char) : Bool :=
  (cs.all fun c => isDigit c || c == '_') && isGrouped isDigit cs

/-! ## Base ten -/

/-- Whether a number without sign starts with a zero that it does not
need. -/
def hasLeadingZero (cs : List Char) : Bool := cs.head? == some '0' && cs.length != 1

/-- The text after digits and underscores, of which at least one is a
digit. Only where zeros may lead can several digits start with one. -/
def afterDigits (zeros : Bool) (cs : List Char) : Option (List Char) :=
  let run := cs.takeWhile fun c => c.isDigit || c == '_'
  let count := run.countP Char.isDigit
  if count = 0 then none
  else if 1 < count ∧ zeros = false ∧ run.head? = some '0' then none
  else some (cs.drop run.length)

/-- The text after a fraction, if there is one. -/
def afterPoint : List Char → Option (List Char)
  | '.' :: cs => afterDigits true cs
  | cs => some cs

/-- The text after an exponent, if there is one. -/
def afterExponent : List Char → Option (List Char)
  | 'e' :: cs | 'E' :: cs => afterDigits true (dropSign cs)
  | cs => some cs

/-- Whether a text without sign is a float, as far as its digits go. -/
def isFloatForm (cs : List Char) : Bool :=
  match (afterDigits false cs).bind afterPoint |>.bind afterExponent with
  | some rest => rest.isEmpty
  | none => false

/-- Whether a character occurs in floats alone. -/
def isFloatMark (c : Char) : Bool := c == '.' || c == 'e' || c == 'E'

/-- Whether a word is a number in base ten. What follows its leading digits
decides between an integer, a float and no number at all. -/
def isDecimal (w : List Char) : Bool :=
  let cs := dropSign w
  match cs.dropWhile Char.isDigit with
  | [] => !cs.isEmpty && !hasLeadingZero cs
  | c :: rest =>
    if c = '-' ∨ c = ':' ∨ (c :: rest).contains ' ' = true then false
    else if (c :: rest).any isFloatMark then isFloatForm cs && isGrouped Char.isDigit w
    else c == '_' && !hasLeadingZero cs && isGrouped isHexDigit w

/-- Whether a word is one of the special floats. -/
def isSpecial (w : List Char) : Bool :=
  let cs := dropSign w
  cs == "inf".toList || cs == "nan".toList

/-- Whether a word is a number. -/
def isNumber : List Char → Bool
  | '0' :: 'x' :: cs => isCoded isHexDigit cs
  | '0' :: 'o' :: cs => isCoded (fun c => '0' ≤ c && c ≤ '7') cs
  | '0' :: 'b' :: cs => isCoded (fun c => c == '0' || c == '1') cs
  | w => isSpecial w || isDecimal w

end ObjcDecl.Toml
