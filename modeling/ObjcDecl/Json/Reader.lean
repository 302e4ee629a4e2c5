import ObjcDecl.Json.Parser

/-!
# Reading typed values

A reader turns a JSON value into a value of some type, or says what is
wrong with it. Of several faults it reports the one that comes first in
the document.

- Records (`Record.read`) are objects, with their members in any order, or
  arrays of the fields in the order of their declaration. Members that
  belong to no field are skipped, or refused.
- Choices (`readChoice`) are written by name, or as an object with the
  name as its only member.
-/

namespace ObjcDecl

/-- What can be wrong with a document. -/
inductive ReadError where
  | missingField (name : String)
  | duplicateField (name : String)
  | unknownField (name : String) (expected : List String)
  | unknownVariant (name : String) (expected : List String)
  /-- Malformed text, or a value of the wrong type. -/
  | invalid
deriving DecidableEq, Repr

namespace ReadError

/-- A name in a message. -/
def quoteName (s : String) : String := "`" ++ s ++ "`"

/-- The names that would have been right. -/
def expectation : List String → String
  | [] => "nothing"
  | [a] => quoteName a
  | [a, b] => quoteName a ++ " or " ++ quoteName b
  | names => "one of " ++ String.intercalate ", " (names.map quoteName)

/-- The wording of a fault in the document's structure. A value that is
invalid has no wording of its own. -/
def message : ReadError → Option String
  | .missingField n => some ("missing field " ++ quoteName n)
  | .duplicateField n => some ("duplicate field " ++ quoteName n)
  | .unknownField n ns => some ("unknown field " ++ quoteName n ++ ", expected " ++ expectation ns)
  | .unknownVariant n ns =>
    some ("unknown variant " ++ quoteName n ++ ", expected " ++ expectation ns)
  | .invalid => none

end ReadError

namespace Json

/-- Reads values of a type. -/
abbrev Reader (α : Type) := Json → Except ReadError α

/-! ## Plain values -/

/-- Reads a text. -/
def readString : Reader String
  | .string s => .ok s
  | _ => .error .invalid

/-- Reads a truth value. -/
def readBool : Reader Bool
  | .bool b => .ok b
  | _ => .error .invalid

/-- Reads a value or its absence. -/
def readOption {α : Type} (r : Reader α) : Reader (Option α)
  | .null => .ok none
  | j => (r j).map some

/-- Reads items in order. -/
def readItems {α : Type} (r : Reader α) : List Json → Except ReadError (List α)
  | [] => .ok []
  | j :: js => do
    let x ← r j
    let xs ← readItems r js
    pure (x :: xs)

/-- Reads a list. -/
def readList {α : Type} (r : Reader α) : Reader (List α)
  | .array js => readItems r js
  | _ => .error .invalid

/-! ## Choices -/

/-- A named alternative of a choice: one that is complete with its name,
or one that carries a value. -/
inductive Alternative (α : Type) where
  | plain (a : α)
  | carrying (r : Reader α)

/-- Reads what follows the name of an alternative. One that carries
nothing is followed by `null`, or, where its surroundings were read before
their kind was known, by an empty object. -/
def Alternative.read {α : Type} (buffered : Bool) : Alternative α → Reader α
  | .plain a, .null => .ok a
  | .plain a, .object [] => if buffered then .ok a else .error .invalid
  | .plain _, _ => .error .invalid
  | .carrying r, j => r j

/-- Reads a choice. Within surroundings that were read before their kind
was known, an object of two or more members is refused before its first
name is looked at. -/
def readChoice {α : Type} (buffered : Bool) (alternatives : List (String × Alternative α)) :
    Reader α
  | .string s =>
    match alternatives.lookup s with
    | some (.plain a) => .ok a
    | some (.carrying _) => .error .invalid
    | none => .error (.unknownVariant s (alternatives.map (·.1)))
  | .object ((some k, j) :: ms) =>
    if buffered && !ms.isEmpty then .error .invalid
    else
      match alternatives.lookup k with
      | none => .error (.unknownVariant k (alternatives.map (·.1)))
      | some a => do
        let x ← a.read buffered j
        if ms.isEmpty then pure x else .error .invalid
  | _ => .error .invalid

/-! ## Records -/

/-- A field of a record. Without a default it has to be given. -/
structure FieldSpec (α : Type) where
  name : String
  read : Reader α
  default? : Option α := none

/-- The fields of a record, by their types. -/
inductive Fields : List Type → Type 1 where
  | nil : Fields []
  | cons {α : Type} {ts : List Type} (f : FieldSpec α) (fs : Fields ts) : Fields (α :: ts)

/-- What has been read of the fields so far. -/
def Slots : List Type → Type
  | [] => Unit
  | α :: ts => Option α × Slots ts

/-- Values for all fields. -/
def Values : List Type → Type
  | [] => Unit
  | α :: ts => α × Values ts

/-- Nothing read yet. -/
def Slots.empty : (ts : List Type) → Slots ts
  | [] => ()
  | _ :: ts => (none, empty ts)

namespace Fields

/-- The names of the fields. -/
def names {ts : List Type} : Fields ts → List String
  | .nil => []
  | .cons f fs => f.name :: fs.names

/-- Reads a member into the slot of its field, if it has one; a second
value for a field is a fault, whatever it is. -/
def put {ts : List Type} (k : String) (j : Json) :
    Fields ts → Slots ts → Option (Except ReadError (Slots ts))
  | .nil, _ => none
  | .cons f fs, (s, ss) =>
    if k = f.name then
      some (match s with
        | some _ => .error (.duplicateField k)
        | none => (f.read j).map fun x => (some x, ss))
    else (put k j fs ss).map fun r => r.map fun ss => (s, ss)

/-- Reads members in order. -/
def putAll {ts : List Type} (fs : Fields ts) (refusesUnknown : Bool) :
    List (Option String × Json) → Slots ts → Except ReadError (Slots ts)
  | [], ss => .ok ss
  | (none, _) :: _, _ => .error .invalid
  | (some k, j) :: ms, ss =>
    match fs.put k j ss with
    | some r => do
      let ss ← r
      fs.putAll refusesUnknown ms ss
    | none =>
      if refusesUnknown then .error (.unknownField k fs.names)
      else if j.isIntact then fs.putAll refusesUnknown ms ss
      else .error .invalid

/-- The values read, with defaults for fields that were not given. -/
def finish {ts : List Type} : Fields ts → Slots ts → Except ReadError (Values ts)
  | .nil, _ => .ok ()
  | .cons f fs, (s, ss) =>
    match s.or f.default? with
    | none => .error (.missingField f.name)
    | some x => do
      let xs ← fs.finish ss
      pure (x, xs)

/-- Reads the fields in the order of their declaration; defaults stand for
those at the end that are not given. -/
def readInOrder {ts : List Type} : Fields ts → List Json → Except ReadError (Values ts)
  | .nil, [] => .ok ()
  | .nil, _ :: _ => .error .invalid
  | .cons f fs, [] =>
    match f.default? with
    | none => .error .invalid
    | some x => do
      let xs ← fs.readInOrder []
      pure (x, xs)
  | .cons f fs, j :: js => do
    let x ← f.read j
    let xs ← fs.readInOrder js
    pure (x, xs)

/-- Reads values for all fields. -/
def read {ts : List Type} (fs : Fields ts) (refusesUnknown : Bool) : Reader (Values ts)
  | .object ms => do
    let ss ← fs.putAll refusesUnknown ms (Slots.empty ts)
    fs.finish ss
  | .array js => fs.readInOrder js
  | _ => .error .invalid

end Fields

/-- A record: its fields, and how it is built from their values. -/
structure Record (α : Type) where
  {types : List Type}
  fields : Fields types
  build : Values types → α
  /-- Whether members that belong to no field are refused. -/
  refusesUnknown : Bool := false

/-- Reads a record. -/
def Record.read {α : Type} (r : Record α) : Reader α :=
  fun j => (r.fields.read r.refusesUnknown j).map r.build

/-! ## Documents -/

/-- The depth to which a document may be nested where it is read. -/
def depthLimit : Nat := 127

/-- Reads a value, as far as it is not nested too deep. -/
def readLimited {α : Type} (r : Reader α) : Reader α := fun j => r (limit depthLimit j)

/-- Reads a text that holds a value and nothing else. A fault of the value
is reported before the text that follows it is looked at. -/
def readText {α : Type} (r : Reader α) (s : String) : Except ReadError α := do
  let d := ofText s
  let x ← readLimited r d.value
  if d.isWhole then pure x else .error .invalid

end Json

end ObjcDecl
