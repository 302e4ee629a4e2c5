import ObjcDecl.Text.Split

/-!
# Paths

A path is a text whose names are separated by `/`. One that starts with
`/` is absolute; any other one starts at the working directory.
-/

namespace ObjcDecl.Path

open Text

/-- Whether a text can be a path: it is not too long, and the character
that ends a path for the machine is not in it. -/
def isValid (p : String) : Bool := p.utf8ByteSize ≤ 4095 && !p.toList.contains '\x00'

/-- Whether a path starts at the root. -/
def isAbsolute (p : String) : Bool := p.toList.head? == some '/'

/-- The path of a file that is named relative to a directory. An absolute
name stays as it is. -/
def join (directory file : String) : String :=
  if isAbsolute file || directory.isEmpty then file
  else if directory.toList.getLast? == some '/' then directory ++ file
  else directory ++ "/" ++ file

/-- A path, read from its end, without the separators and the names `.` at
that end. The first character of the path stays. -/
def dropIdle : List Char → List Char
  | '/' :: c :: cs => dropIdle (c :: cs)
  | '.' :: '/' :: c :: cs => dropIdle (c :: cs)
  | cs => cs

/-- The directory part of a path: what precedes its last name. -/
def parent (p : String) : String :=
  String.ofList (dropIdle (beforeLast '/' p.toList).reverse).reverse

/-- The names of a path, empty ones included. -/
def names (p : String) : List String := (splitOn '/' p.toList).map String.ofList

end ObjcDecl.Path
