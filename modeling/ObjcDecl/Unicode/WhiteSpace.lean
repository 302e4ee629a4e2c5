import ObjcDecl.Unicode.Run

/-!
# White space

The `White_Space` property of Unicode and trimming by it.
-/

namespace ObjcDecl.Unicode

/-- The code points with the property `White_Space`. -/
def whiteSpace : List Run :=
  [⟨0x9, 0xD, 1⟩, ⟨0x20, 0x20, 1⟩, ⟨0x85, 0x85, 1⟩, ⟨0xA0, 0xA0, 1⟩, ⟨0x1680, 0x1680, 1⟩,
   ⟨0x2000, 0x200A, 1⟩, ⟨0x2028, 0x2029, 1⟩, ⟨0x202F, 0x202F, 1⟩, ⟨0x205F, 0x205F, 1⟩,
   ⟨0x3000, 0x3000, 1⟩]

/-- Whether a character is white space. -/
def isWhiteSpace (c : Char) : Bool := covered whiteSpace c.toNat

/-- A text without its leading white space. -/
def trimStart (cs : List Char) : List Char := cs.dropWhile isWhiteSpace

/-- A text without its trailing white space. -/
def trimEnd (cs : List Char) : List Char := (trimStart cs.reverse).reverse

/-- A text without white space at either end. -/
def trim (cs : List Char) : List Char := trimEnd (trimStart cs)

/-- Trimming at the front leaves a suffix. -/
theorem trimStart_suffix (cs : List Char) : trimStart cs <:+ cs := List.dropWhile_suffix _

/-- Trimming at the back leaves a prefix. -/
theorem trimEnd_isPrefix (cs : List Char) : trimEnd cs <+: cs := by
  have h := trimStart_suffix cs.reverse
  rw [← List.reverse_prefix] at h
  simpa [trimEnd] using h

/-- What is left of a trimmed text is a part of it. -/
theorem isInfix_trim (cs : List Char) : trim cs <:+: cs :=
  List.IsInfix.trans (trimEnd_isPrefix _).isInfix (trimStart_suffix cs).isInfix

end ObjcDecl.Unicode
