/-!
# Documentation comments

A comment is a list of tags. A tag has a name with its `@` (`@param`,
`@code`), or none for the description, and its content is a list of
fragments, which may be tags themselves.
-/

namespace ObjcDecl

/-- A piece of a tag's content. -/
inductive DocFragment where
  /-- Literal text. -/
  | text (s : String)
  /-- An inline tag, with its name and content. -/
  | tag (name : Option String) (fragments : List DocFragment)
  /-- A name or member reference, kept as its source text. -/
  | reference (s : String)
deriving Repr

/-- A tag of a comment; the description has no name. -/
structure DocTag where
  name : Option String := none
  fragments : List DocFragment := []
deriving Repr

/-- A documentation comment. -/
structure Doc where
  tags : List DocTag := []
deriving Repr

/-- A comment that holds only a description. -/
def Doc.ofText (s : String) : Doc := ⟨[⟨none, [.text s]⟩]⟩

end ObjcDecl
