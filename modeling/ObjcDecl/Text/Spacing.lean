import ObjcDecl.Fault

/-!
# Runs of spaces
-/

namespace ObjcDecl.Text

/-- A run of `n` spaces. -/
def pad (n : Nat) : String := String.ofList (List.replicate n ' ')

/-- The greatest length of a text. -/
def maxLength : Nat := 0x7FFFFFFFFFFFFFFF

/-- A run of `n` spaces, unless it is longer than any text. -/
def padding (n : Nat) : Except Fault String :=
  if n ≤ maxLength then .ok (pad n) else .error .textTooLong

/-- Padding is as long as asked for. -/
theorem length_pad (n : Nat) : (pad n).length = n := by simp [pad]

end ObjcDecl.Text
