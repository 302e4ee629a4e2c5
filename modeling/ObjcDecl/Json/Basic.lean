/-!
# JSON values

A value as it stands in a document, with the members of an object in
order and repeated ones kept. Two kinds of value stand for text that does
not mean a value:

- `unreadable`: well-formed, but without a meaning that could be read: a
  string that names half of a surrogate pair, a number beyond the range
  of floating point, a value nested too deep. It may be skipped.
- `broken`: the place at which the text stops being JSON. Nothing follows
  it, and it may not be skipped either.

So a document that is malformed towards its end still has a value, and a
reader that finds a fault before it gets there reports that fault.
-/

namespace ObjcDecl

/-- A value of a document. A number is an integer of 64 bits; one that is
not, or that is written with a fraction or an exponent, is a significand
with a power of ten. A member whose name is unreadable has no name. -/
inductive Json where
  | null
  | bool (b : Bool)
  | integer (n : Int)
  | decimal (significand exponent : Int)
  | string (s : String)
  | array (items : List Json)
  | object (members : List (Option String × Json))
  | unreadable
  | broken
deriving Repr, Inhabited

namespace Json

mutual

/-- Whether the text of the value is JSON to its end. -/
def isIntact : Json → Bool
  | .broken => false
  | .array js => itemsIntact js
  | .object ms => membersIntact ms
  | _ => true

/-- Whether all items are intact. -/
def itemsIntact : List Json → Bool
  | [] => true
  | j :: js => j.isIntact && itemsIntact js

/-- Whether all members are intact. -/
def membersIntact : List (Option String × Json) → Bool
  | [] => true
  | (_, j) :: ms => j.isIntact && membersIntact ms

end

mutual

/-- Whether every part of the value can be read. -/
def isReadable : Json → Bool
  | .broken => false
  | .unreadable => false
  | .array js => itemsReadable js
  | .object ms => membersReadable ms
  | _ => true

/-- Whether all items can be read. -/
def itemsReadable : List Json → Bool
  | [] => true
  | j :: js => j.isReadable && itemsReadable js

/-- Whether all members can be read, with their names. -/
def membersReadable : List (Option String × Json) → Bool
  | [] => true
  | (k, j) :: ms => k.isSome && j.isReadable && membersReadable ms

end

mutual

/-- The number of arrays and objects around the innermost value. -/
def depth : Json → Nat
  | .array js => itemsDepth js + 1
  | .object ms => membersDepth ms + 1
  | _ => 0

/-- The greatest depth of the items. -/
def itemsDepth : List Json → Nat
  | [] => 0
  | j :: js => max j.depth (itemsDepth js)

/-- The greatest depth of the members' values. -/
def membersDepth : List (Option String × Json) → Nat
  | [] => 0
  | (_, j) :: ms => max j.depth (membersDepth ms)

end

/-- What stands in the place of a value nested too deep: it may be skipped
if it is intact. -/
def tooDeep (j : Json) : Json := if j.isIntact then .unreadable else .broken

mutual

/-- The value with everything nested deeper than `n` made unreadable. -/
def limit (n : Nat) : Json → Json
  | .array js =>
    match n with
    | 0 => tooDeep (.array js)
    | n + 1 => .array (limitItems n js)
  | .object ms =>
    match n with
    | 0 => tooDeep (.object ms)
    | n + 1 => .object (limitMembers n ms)
  | j => j

/-- The items with everything nested deeper than `n` made unreadable. -/
def limitItems (n : Nat) : List Json → List Json
  | [] => []
  | j :: js => limit n j :: limitItems n js

/-- The members with everything nested deeper than `n` made unreadable. -/
def limitMembers (n : Nat) : List (Option String × Json) → List (Option String × Json)
  | [] => []
  | (k, j) :: ms => (k, limit n j) :: limitMembers n ms

end

/-- An object of named members. -/
def ofMembers (ms : List (String × Json)) : Json := .object (ms.map fun (k, j) => (some k, j))

/-- An optional value, `null` without one. -/
def ofOption : Option Json → Json
  | none => .null
  | some j => j

mutual

/-- A value that is not nested too deep is left as it is. -/
theorem limit_of_depth_le {n : Nat} : ∀ {j : Json}, j.depth ≤ n → limit n j = j
  | .array js, h => by
    cases n with
    | zero => simp [depth] at h
    | succ n =>
      simp only [depth, Nat.add_le_add_iff_right] at h
      simp only [limit, limitItems_of_depth_le h]
  | .object ms, h => by
    cases n with
    | zero => simp [depth] at h
    | succ n =>
      simp only [depth, Nat.add_le_add_iff_right] at h
      simp only [limit, limitMembers_of_depth_le h]
  | .null, _ | .bool _, _ | .integer _, _ | .decimal _ _, _ | .string _, _ | .unreadable, _
  | .broken, _ => by simp [limit]

/-- Items that are not nested too deep are left as they are. -/
theorem limitItems_of_depth_le {n : Nat} :
    ∀ {js : List Json}, itemsDepth js ≤ n → limitItems n js = js
  | [], _ => rfl
  | j :: js, h => by
    simp only [itemsDepth, Nat.max_le] at h
    simp only [limitItems, limit_of_depth_le h.1, limitItems_of_depth_le h.2]

/-- Members that are not nested too deep are left as they are. -/
theorem limitMembers_of_depth_le {n : Nat} :
    ∀ {ms : List (Option String × Json)}, membersDepth ms ≤ n → limitMembers n ms = ms
  | [], _ => rfl
  | (k, j) :: ms, h => by
    simp only [membersDepth, Nat.max_le] at h
    simp only [limitMembers, limit_of_depth_le h.1, limitMembers_of_depth_le h.2]

end

end Json

end ObjcDecl
