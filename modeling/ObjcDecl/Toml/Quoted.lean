import ObjcDecl.Text.Digit

/-!
# Strings

The scanners here take the text from the first character of a string on
and give its value and the text after it. A string stands within one line
or goes on over several; one in double quotes has escapes.
-/

namespace ObjcDecl.Toml

open Text

/-! ## Characters -/

/-- Whether a character separates words within a line. -/
def isBlank (c : Char) : Bool := c == ' ' || c == '\t'

/-- Whether a character may stand in a comment or a string as it is: a tab
or anything but a control character. -/
def isPlain (c : Char) : Bool := c == '\t' || (0x20 ≤ c.toNat && c.toNat != 0x7F)

/-- The character whose code hexadecimal digits write, if it has one. -/
def codedChar (digits : List Char) : Option Char := do
  let n ← hexNumber digits
  if n.isValidChar then pure (Char.ofNat n) else none

/-! ## Strings -/

/-- The character that a one-letter escape stands for. -/
def shortEscape : Char → Option Char
  | 'b' => some '\x08'
  | 't' => some '\t'
  | 'n' => some '\n'
  | 'f' => some '\x0c'
  | 'r' => some '\r'
  | 'e' => some '\x1b'
  | '"' => some '"'
  | '\\' => some '\\'
  | _ => none

/-- The character that an escape stands for, after its backslash. -/
def escaped : List Char → Option (Char × List Char)
  | [] => none
  | c :: cs =>
    let coded (n : Nat) :=
      if cs.length < n then none else (codedChar (cs.take n)).map fun x => (x, cs.drop n)
    match c with
    | 'x' => coded 2
    | 'u' => coded 4
    | 'U' => coded 8
    | c => (shortEscape c).map fun x => (x, cs)

/-- A line end at the head of a text, and what follows it. -/
def lineFeed? : List Char → Option (List Char)
  | '\n' :: cs => some cs
  | '\r' :: '\n' :: cs => some cs
  | _ => none

/-- The text after blanks and line ends. -/
def skipGap : List Char → List Char
  | '\r' :: '\n' :: cs => skipGap cs
  | c :: cs => if isBlank c || c == '\n' then skipGap cs else c :: cs
  | [] => []

/-- The text after a line end that a backslash joins to what follows: the
blanks before it, and all blanks and line ends after it, are skipped. -/
def joinedLine (cs : List Char) : Option (List Char) :=
  (lineFeed? (cs.dropWhile isBlank)).map skipGap

/-- A style of quoting. -/
structure Quoting where
  mark : Char
  escapes : Bool
  multiline : Bool

/-- The end of a string at the head of a text: the marks that still belong
to the string, and what follows. A string of several lines ends with three
marks and may have two more before them. -/
def Quoting.ending (q : Quoting) (cs : List Char) : Option (List Char × List Char) :=
  let run := (cs.takeWhile (· == q.mark)).length
  if q.multiline then
    if run < 3 then none
    else some (List.replicate (min run 5 - 3) q.mark, cs.drop (min run 5))
  else if run = 0 then none
  else some ([], cs.drop 1)

/-- A string's character put before its other ones. -/
def pushChar (c : Char) : Option (List Char × List Char) → Option (List Char × List Char) :=
  Option.map fun (s, rest) => (c :: s, rest)

/-- The content of a string after its opening marks. The recursion counts
down from the length of the text. -/
def Quoting.content (q : Quoting) : Nat → List Char → Option (List Char × List Char)
  | 0, _ => none
  | n + 1, cs =>
    match q.ending cs with
    | some e => some e
    | none =>
      match cs with
      | [] => none
      | c :: rest =>
        if q.escapes && c == '\\' then
          match if q.multiline then joinedLine rest else none with
          | some rest => q.content n rest
          | none =>
            match escaped rest with
            | some (x, rest) => pushChar x (q.content n rest)
            | none => none
        else
          match if q.multiline then lineFeed? (c :: rest) else none with
          | some rest => pushChar '\n' (q.content n rest)
          | none => if isPlain c then pushChar c (q.content n rest) else none

/-- The rest of a string of one line. -/
def lineString (mark : Char) (escapes : Bool) (cs : List Char) : Option (String × List Char) :=
  ((Quoting.mk mark escapes false).content (cs.length + 1) cs).map fun (s, rest) =>
    (String.ofList s, rest)

/-- The rest of a string of several lines. A line end right after the
opening marks is no part of it. -/
def blockString (mark : Char) (escapes : Bool) (cs : List Char) : Option (String × List Char) :=
  let cs := (lineFeed? cs).getD cs
  ((Quoting.mk mark escapes true).content (cs.length + 1) cs).map fun (s, rest) =>
    (String.ofList s, rest)

/-- A string at the head of a text. -/
def stringLiteral : List Char → Option (String × List Char)
  | '"' :: '"' :: '"' :: cs => blockString '"' true cs
  | '"' :: cs => lineString '"' true cs
  | '\'' :: '\'' :: '\'' :: cs => blockString '\'' false cs
  | '\'' :: cs => lineString '\'' false cs
  | _ => none

end ObjcDecl.Toml
