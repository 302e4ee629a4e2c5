import ObjcDecl.Text.Digit

/-!
# Points in time

A date, a time of day, or both, and with both an offset from universal
time. Each part is checked against the calendar or the clock; seconds and
their fractions may be left out.
-/

namespace ObjcDecl.Toml

open Text

/-- The number that exactly `n` digits at the head of a text write. -/
def fixedDigits (n : Nat) (cs : List Char) : Option (Nat × List Char) :=
  let ds := cs.takeWhile Char.isDigit
  if ds.length = n then
    some (decimalNumber ds, cs.drop n)
  else none

/-- The number of days in a month. -/
def daysInMonth (year month : Nat) : Nat :=
  if month = 2 then
    if year % 4 = 0 ∧ (year % 100 ≠ 0 ∨ year % 400 = 0) then 29 else 28
  else if month = 4 ∨ month = 6 ∨ month = 9 ∨ month = 11 then 30
  else 31

/-- The text after a character that has to stand at its head. -/
def expect (c : Char) : List Char → Option (List Char)
  | d :: cs => if d = c then some cs else none
  | [] => none

/-- The text after a date. -/
def afterDate (cs : List Char) : Option (List Char) := do
  let (year, cs) ← fixedDigits 4 cs
  let cs ← expect '-' cs
  let (month, cs) ← fixedDigits 2 cs
  let cs ← expect '-' cs
  let (day, cs) ← fixedDigits 2 cs
  if 1 ≤ month ∧ month ≤ 12 ∧ 1 ≤ day ∧ day ≤ daysInMonth year month then pure cs else none

/-- The text after an hour and a minute. -/
def afterMinutes (cs : List Char) : Option (List Char) := do
  let (hour, cs) ← fixedDigits 2 cs
  let cs ← expect ':' cs
  let (minute, cs) ← fixedDigits 2 cs
  if hour ≤ 23 ∧ minute ≤ 59 then pure cs else none

/-- The text after a fraction of a second, if there is one. -/
def afterFraction : List Char → Option (List Char)
  | '.' :: cs =>
    match cs with
    | c :: _ => if c.isDigit then some (cs.dropWhile Char.isDigit) else none
    | [] => none
  | cs => some cs

/-- The text after seconds, if there are any; a minute may have a leap
second. -/
def afterSeconds : List Char → Option (List Char)
  | ':' :: cs => do
    let (second, cs) ← fixedDigits 2 cs
    if second ≤ 60 then afterFraction cs else none
  | cs => some cs

/-- The text after a time of day. -/
def afterTime (cs : List Char) : Option (List Char) := do
  let cs ← afterMinutes cs
  afterSeconds cs

/-- The text after an offset from universal time, if there is one. -/
def afterOffset : List Char → Option (List Char)
  | 'Z' :: cs | 'z' :: cs => some cs
  | '+' :: cs | '-' :: cs => afterMinutes cs
  | cs => some cs

/-- The text after what may follow a date: a time, with or without offset. -/
def afterDateTime : List Char → Option (List Char)
  | [] => some []
  | c :: cs => do
    if c = 'T' ∨ c = 't' ∨ c = ' ' then
      let cs ← afterTime cs
      afterOffset cs
    else none

/-- Whether a text is a date, a time, or both. -/
def isMoment (cs : List Char) : Bool :=
  match afterDate cs with
  | some rest => afterDateTime rest == some []
  | none => afterTime cs == some []

end ObjcDecl.Toml
