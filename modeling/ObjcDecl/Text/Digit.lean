/-!
# Digits

The values of decimal and hexadecimal digits, as the data formats write
them.
-/

namespace ObjcDecl.Text

/-- The value of a hexadecimal digit, in capitals or small letters. -/
def hexValue (c : Char) : Option Nat :=
  if '0' ≤ c ∧ c ≤ '9' then some (c.toNat - '0'.toNat)
  else if 'a' ≤ c ∧ c ≤ 'f' then some (c.toNat - 'a'.toNat + 10)
  else if 'A' ≤ c ∧ c ≤ 'F' then some (c.toNat - 'A'.toNat + 10)
  else none

/-- The number that hexadecimal digits write. -/
def hexNumber (ds : List Char) : Option Nat :=
  ds.foldlM (fun n d => (hexValue d).map (n * 16 + ·)) 0

/-- The hexadecimal digit of a value below sixteen, in small letters. -/
def hexDigit (n : Nat) : Char :=
  if n < 10 then Char.ofNat ('0'.toNat + n) else Char.ofNat ('a'.toNat + (n - 10))

/-- The value of a decimal digit. -/
def decimalValue (d : Char) : Nat := d.toNat - '0'.toNat

/-- The number that decimal digits write. -/
def decimalNumber (ds : List Char) : Nat := ds.foldl (fun n d => n * 10 + decimalValue d) 0

end ObjcDecl.Text
