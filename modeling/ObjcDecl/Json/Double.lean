/-!
# Double precision

A number that is no integer of 64 bits is approximated in double
precision: its significand is rounded, the power of ten it is scaled by is
rounded as well, and so is their product. Only one thing is asked of the
result, whether it is finite.
-/

namespace ObjcDecl.Json.Double

/-- The greatest integer of 64 bits. -/
def maxWord : Nat := 0xFFFFFFFFFFFFFFFF

/-- The number of binary digits that rounding keeps. -/
def precision : Nat := 53

/-- The multiple of a unit that is nearest to a number; of two that are
equally near, the even one. -/
def roundTo (unit n : Nat) : Nat :=
  if unit < 2 * (n % unit) ∨ (2 * (n % unit) = unit ∧ n / unit % 2 = 1) then
    (n / unit + 1) * unit
  else n / unit * unit

/-- The double nearest to a number that is far from the end of the range. -/
def nearest (n : Nat) : Nat := roundTo (Nat.pow 2 (n.log2 + 1 - precision)) n

/-- The least number that is rounded to infinity. -/
def limit : Nat := Nat.pow 2 1024 - Nat.pow 2 970

/-- The exponent of the greatest power of ten within the range. -/
def maxExponent : Nat := 308

/-- Whether a significand times a power of ten is approximated by infinity.
A negative power only makes it smaller. -/
def overflows (significand : Nat) : (exponent : Int) → Bool
  | .negSucc _ => false
  | .ofNat e =>
    if significand = 0 then false
    else if maxExponent < e then true
    else decide (limit ≤ nearest significand * nearest (Nat.pow 10 e))

end ObjcDecl.Json.Double
