import ObjcDecl.Json.Literal

/-!
# Reading JSON text

`ofText` reads any text. Where the text stops being JSON, the value has a
`broken` part and nothing after it; `Document.isWhole` says whether
nothing but white space follows the value.

The recursion counts down from a number that the length of the text
bounds: every value and every separator takes a character.
-/

namespace ObjcDecl.Json

/-- The text without the white space of JSON at its head. -/
def skipSpace (cs : List Char) : List Char :=
  cs.dropWhile fun c => c == ' ' || c == '\n' || c == '\r' || c == '\t'

/-- What a parser gives: a value and the text after it, which is missing
if reading stopped within the value. -/
abbrev Parsed (α : Type) := α × Option (List Char)

/-- A literal that is read to its end, or reading stops. -/
def literal : Option (Json × List Char) → Parsed Json
  | some (j, rest) => (j, some rest)
  | none => (.broken, none)

/-- A string literal after its opening quote. -/
def stringLiteral (cs : List Char) : Option (Option String × List Char) :=
  (stringParts cs).map fun (ps, rest) => ((assemble ps).map String.ofList, rest)

/-- The value of a string literal. -/
def stringValue : Option String → Json
  | some s => .string s
  | none => .unreadable

mutual

/-- A value at the head of a text. -/
def value : Nat → List Char → Parsed Json
  | 0, _ => (.broken, none)
  | fuel + 1, cs =>
    match skipSpace cs with
    | 'n' :: 'u' :: 'l' :: 'l' :: rest => (.null, some rest)
    | 't' :: 'r' :: 'u' :: 'e' :: rest => (.bool true, some rest)
    | 'f' :: 'a' :: 'l' :: 's' :: 'e' :: rest => (.bool false, some rest)
    | '"' :: rest => literal ((stringLiteral rest).map fun (s, rest) => (stringValue s, rest))
    | '[' :: rest =>
      match skipSpace rest with
      | ']' :: rest => (.array [], some rest)
      | rest =>
        let (js, rest) := items fuel rest
        (.array js, rest)
    | '{' :: rest =>
      match skipSpace rest with
      | '}' :: rest => (.object [], some rest)
      | rest =>
        let (ms, rest) := members fuel rest
        (.object ms, rest)
    | cs => literal (number cs)

/-- The items of an array, up to its closing bracket. -/
def items : Nat → List Char → Parsed (List Json)
  | 0, _ => ([.broken], none)
  | fuel + 1, cs =>
    match value fuel cs with
    | (j, none) => ([j], none)
    | (j, some rest) =>
      match skipSpace rest with
      | ',' :: rest =>
        let (js, rest) := items fuel rest
        (j :: js, rest)
      | ']' :: rest => ([j], some rest)
      | _ => ([j, .broken], none)

/-- The members of an object, up to its closing brace. -/
def members : Nat → List Char → Parsed (List (Option String × Json))
  | 0, _ => ([(none, .broken)], none)
  | fuel + 1, cs =>
    match skipSpace cs with
    | '"' :: rest =>
      match stringLiteral rest with
      | none => ([(none, .broken)], none)
      | some (key, rest) =>
        match skipSpace rest with
        | ':' :: rest =>
          match value fuel rest with
          | (j, none) => ([(key, j)], none)
          | (j, some rest) =>
            match skipSpace rest with
            | ',' :: rest =>
              let (ms, rest) := members fuel rest
              ((key, j) :: ms, rest)
            | '}' :: rest => ([(key, j)], some rest)
            | _ => ([(key, j), (none, .broken)], none)
        | _ => ([(key, .broken)], none)
    | _ => ([(none, .broken)], none)

end

/-- A text read as JSON. -/
structure Document where
  value : Json
  /-- Whether nothing but white space follows the value. -/
  isWhole : Bool

/-- Reads a text. -/
def ofText (s : String) : Document :=
  let cs := s.toList
  match value (2 * cs.length + 2) cs with
  | (j, none) => ⟨j, false⟩
  | (j, some rest) => ⟨j, (skipSpace rest).isEmpty⟩

end ObjcDecl.Json
