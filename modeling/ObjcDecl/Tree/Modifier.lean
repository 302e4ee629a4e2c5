/-!
# Modifiers and annotations

A modifier list keeps its order. `insert` never adds a second copy, so a
list built by `ofList` has no duplicates; a list read from a document is
kept as it was written.
-/

namespace ObjcDecl

/-- A declaration modifier. -/
inductive Modifier where
  | publicAccess
  | protectedAccess
  | privateAccess
  | staticMember
  | final
  | abstract
  | native
  | synthetic
deriving DecidableEq, Repr

/-- The modifiers of a declaration, in order. -/
structure Modifiers where
  toList : List Modifier := []
deriving DecidableEq, Repr

namespace Modifiers

/-- Whether a modifier is present. -/
def contains (ms : Modifiers) (m : Modifier) : Bool := ms.toList.contains m

/-- The modifiers with one more at the end, unless it is present already. -/
def insert (ms : Modifiers) (m : Modifier) : Modifiers :=
  if ms.contains m then ms else ⟨ms.toList ++ [m]⟩

/-- The modifiers of a list, each at its first occurrence. -/
def ofList (ms : List Modifier) : Modifiers := ms.foldl insert {}

/-- Whether the declaration is static. -/
def isStatic (ms : Modifiers) : Bool := ms.contains .staticMember

/-- Whether the declaration is private. -/
def isPrivate (ms : Modifiers) : Bool := ms.contains .privateAccess

/-- Whether the declaration is absent from the source. -/
def isSynthetic (ms : Modifiers) : Bool := ms.contains .synthetic

/-- Whether the declaration is private or absent from the source: what
the switch for private members hides. -/
def isPrivateOrSynthetic (ms : Modifiers) : Bool := ms.isPrivate || ms.isSynthetic

/-- An inserted modifier is present, and no other one is new. -/
theorem mem_toList_insert (ms : Modifiers) (m x : Modifier) :
    x ∈ (ms.insert m).toList ↔ x = m ∨ x ∈ ms.toList := by
  unfold insert
  split
  · next h =>
    have h : m ∈ ms.toList := by simpa [contains] using h
    constructor
    · exact .inr
    · rintro (rfl | hx)
      · exact h
      · exact hx
  · simp [or_comm]

end Modifiers

/-- An annotation, by the name written in the source: a simple name or a
qualified one. -/
structure Annotation where
  typeName : String
deriving DecidableEq, Repr

/-- Whether the annotation was written with a qualified name. -/
def Annotation.isQualified (a : Annotation) : Bool := a.typeName.toList.contains '.'

end ObjcDecl
