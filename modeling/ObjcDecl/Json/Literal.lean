import ObjcDecl.Json.Basic
import ObjcDecl.Json.Double
import ObjcDecl.Text.Digit

/-!
# String and number literals

A string literal is first cut into characters and `\u` escapes, which name
UTF-16 units, and then put together: two units that form a surrogate pair
are one character, and half of a pair has no meaning. A number literal is
an integer of 64 bits or is approximated, and has no meaning if the
approximation is infinite.
-/

namespace ObjcDecl.Json

open Text

/-! ## Strings -/

/-- A character of a string literal, or the UTF-16 unit that an escape
names. -/
inductive StringPart where
  | char (c : Char)
  | unit (n : Nat)
deriving DecidableEq, Repr

/-- The character that a one-letter escape stands for. -/
def shortEscape : Char → Option Char
  | '"' => some '"'
  | '\\' => some '\\'
  | '/' => some '/'
  | 'b' => some '\x08'
  | 'f' => some '\x0c'
  | 'n' => some '\n'
  | 'r' => some '\r'
  | 't' => some '\t'
  | _ => none

/-- The parts of a string literal after its opening quote, and what
follows its closing quote. There are none if the literal is malformed: it
does not end, holds a control character, or has an escape of no known
form. -/
def stringParts : List Char → Option (List StringPart × List Char)
  | [] => none
  | '"' :: cs => some ([], cs)
  | '\\' :: 'u' :: a :: b :: c :: d :: cs =>
    match hexNumber [a, b, c, d], stringParts cs with
    | some n, some (ps, rest) => some (.unit n :: ps, rest)
    | _, _ => none
  | '\\' :: c :: cs =>
    match shortEscape c, stringParts cs with
    | some e, some (ps, rest) => some (.char e :: ps, rest)
    | _, _ => none
  | c :: cs =>
    if c.toNat < 0x20 ∨ c = '\\' then none
    else
      match stringParts cs with
      | some (ps, rest) => some (.char c :: ps, rest)
      | none => none

/-- Whether a UTF-16 unit is the first half of a surrogate pair. -/
def isLeading (n : Nat) : Bool := 0xD800 ≤ n && n < 0xDC00

/-- Whether a UTF-16 unit is the second half of a surrogate pair. -/
def isTrailing (n : Nat) : Bool := 0xDC00 ≤ n && n < 0xE000

/-- The text that the parts of a literal stand for; none if half of a
surrogate pair stands alone. -/
def assemble : List StringPart → Option (List Char)
  | [] => some []
  | .char c :: ps => (assemble ps).map (c :: ·)
  | .unit n :: .unit m :: ps =>
    if isLeading n then
      if isTrailing m then
        (assemble ps).map (Char.ofNat (0x10000 + (n - 0xD800) * 0x400 + (m - 0xDC00)) :: ·)
      else none
    else if isTrailing n then none
    else (assemble (.unit m :: ps)).map (Char.ofNat n :: ·)
  | .unit n :: ps =>
    if isLeading n || isTrailing n then none else (assemble ps).map (Char.ofNat n :: ·)

/-! ## Numbers -/

/-- The leading digits of a text and the rest. -/
def spanDigits (cs : List Char) : List Char × List Char := cs.span Char.isDigit

/-- The digits after the point, if there is a point; none if no digit
follows it. -/
def fraction : List Char → Option (Option (List Char) × List Char)
  | '.' :: cs =>
    match spanDigits cs with
    | ([], _) => none
    | (ds, rest) => some (some ds, rest)
  | cs => some (none, cs)

/-- The digits of an exponent; none if there are none. -/
def exponentDigits (sign : Int) (cs : List Char) : Option (Option Int × List Char) :=
  match spanDigits cs with
  | ([], _) => none
  | (ds, rest) => some (some (sign * decimalNumber ds), rest)

/-- The exponent, if there is one; none if it has no digits. -/
def exponent : List Char → Option (Option Int × List Char)
  | 'e' :: '+' :: cs | 'E' :: '+' :: cs => exponentDigits 1 cs
  | 'e' :: '-' :: cs | 'E' :: '-' :: cs => exponentDigits (-1) cs
  | 'e' :: cs | 'E' :: cs => exponentDigits 1 cs
  | cs => some (none, cs)

/-- The number that digits write after those of another number, as long as
it fits in 64 bits, and how many digits are left over. -/
def gather : Nat → List Char → Nat × Nat
  | n, [] => (n, 0)
  | n, d :: ds =>
    let next := n * 10 + decimalValue d
    if next ≤ Double.maxWord then gather next ds else (n, ds.length + 1)

/-- Whether a magnitude with a sign is an integer of 64 bits. Zero has no
sign. -/
def fitsWord (negative : Bool) (n : Nat) : Bool :=
  if negative then 0 < n && n ≤ 0x8000000000000000 else n ≤ Double.maxWord

/-- A magnitude with a sign. -/
def signed (negative : Bool) (n : Nat) : Int := if negative then -n else n

/-- The value of a number that is approximated. Digits that do not fit in
the significand count as zeros. -/
def scaledValue (negative : Bool) (significand : Nat) (exponent : Int) : Json :=
  if Double.overflows significand exponent then .unreadable
  else .decimal (signed negative significand) exponent

/-- The value of a number literal from its parts. -/
def numberValue (negative : Bool) (whole : List Char) (frac : Option (List Char))
    (exp : Option Int) : Json :=
  let (significand, skipped) := gather 0 whole
  match frac, exp with
  | none, none =>
    if skipped == 0 && fitsWord negative significand then .integer (signed negative significand)
    else scaledValue negative significand skipped
  | frac, exp =>
    let digits := frac.getD []
    let (significand, ignored) := gather significand digits
    let places := digits.length - ignored
    scaledValue negative significand (skipped - places + exp.getD 0)

/-- The digits before the point: a zero alone, or digits that do not start
with one. -/
def wholeDigits : List Char → Option (List Char × List Char)
  | '0' :: cs => some (['0'], cs)
  | cs =>
    match spanDigits cs with
    | ([], _) => none
    | (ds, rest) => some (ds, rest)

/-- A number literal at the head of a text, after its sign, and the rest. -/
def unsignedNumber (negative : Bool) (cs : List Char) : Option (Json × List Char) := do
  let (whole, cs) ← wholeDigits cs
  let (frac, cs) ← fraction cs
  let (exp, cs) ← exponent cs
  pure (numberValue negative whole frac exp, cs)

/-- A number literal at the head of a text, and the rest. -/
def number : List Char → Option (Json × List Char)
  | '-' :: cs => unsignedNumber true cs
  | cs => unsignedNumber false cs

end ObjcDecl.Json
