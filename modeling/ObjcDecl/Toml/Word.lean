import ObjcDecl.Toml.Basic
import ObjcDecl.Toml.Moment
import ObjcDecl.Toml.Number
import ObjcDecl.Toml.Quoted

/-!
# Words

A value without quotes, brackets or braces is a word. It is cut out of the
text before it is known what it is: a word goes on over blanks, so that a
date and a time can be one, and ends where punctuation or the line ends
it. What is not a truth value, a number or a point in time has no value.
-/

namespace ObjcDecl.Toml

/-- Whether a character ends a word. -/
def endsWord (c : Char) : Bool := [',', '=', '[', ']', '\x7b', '\x7d', '#', '\r', '\n'].contains c

/-- Whether a character is a quotation mark. -/
def isQuote (c : Char) : Bool := c == '"' || c == '\''

/-- Cuts off the characters of a word. Within a run of other characters a
quotation mark is one of them; elsewhere it ends the word. -/
def wordChars : (inRun : Bool) → List Char → List Char × List Char
  | _, [] => ([], [])
  | inRun, c :: cs =>
    if endsWord c || (isQuote c && !inRun) then ([], c :: cs)
    else
      let (w, rest) := wordChars (!isBlank c && c != '.') cs
      (c :: w, rest)

/-- Cuts a word off a text, with the blanks after it. -/
def word (cs : List Char) : List Char × List Char :=
  let (w, rest) := wordChars false cs
  ((w.reverse.dropWhile isBlank).reverse, rest)

/-- The value of a word, if it has one. -/
def wordValue (w : List Char) : Option Toml :=
  if w == "true".toList then some (.bool true)
  else if w == "false".toList then some (.bool false)
  else if isNumber w then some (.number (String.ofList w))
  else if isMoment w then some (.moment (String.ofList w))
  else none

end ObjcDecl.Toml
