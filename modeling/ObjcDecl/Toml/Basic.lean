import ObjcDecl.Assoc

/-!
# TOML values

A document is a table of named values. Its text may build one table in
several places: by a header of its own, by the headers of tables within
it, and by dotted keys. A table keeps its origin, which decides what may
still be added to it, and no name is ever given two values.
-/

namespace ObjcDecl

/-- How a table came to be. -/
inductive Toml.Origin where
  /-- By a header of its own. -/
  | header
  /-- By the header of a table within it. -/
  | implied
  /-- By a dotted key. -/
  | dotted
  /-- As a value in braces, which is complete as it stands. -/
  | inline
deriving DecidableEq, Repr

/-- A value of a document. Numbers and points in time are kept as they
were written. -/
inductive Toml where
  | bool (b : Bool)
  | string (s : String)
  | number (text : String)
  | moment (text : String)
  | array (items : List Toml)
  | table (origin : Toml.Origin) (members : List (String × Toml))
  /-- The tables under one repeated header: those before the last, and
  the last. -/
  | tables (earlier : List (List (String × Toml))) (last : List (String × Toml))
deriving Repr

namespace Toml

/-- The named values of a table. -/
abbrev Members := List (String × Toml)

/-- A dotted key: the names before the last lead to a table, the last one
is given a value in it. -/
abbrev Key := List String

namespace Members

/-- The members with a new one; none if the name has a value already. -/
def add (k : String) (v : Toml) (ms : Members) : Option Members :=
  match ms.lookup k with
  | some _ => none
  | none => some (Assoc.put k v ms)

/-- A change to the table that a header's names lead to. Tables on the way
that do not exist are implied, and of repeated tables the last is entered. -/
def change (f : Members → Option Members) : Key → Members → Option Members
  | [], ms => f ms
  | k :: ks, ms =>
    match ms.lookup k with
    | none => (change f ks []).map fun sub => Assoc.put k (.table .implied sub) ms
    | some (.table .inline _) => none
    | some (.table origin sub) => (change f ks sub).map fun sub => Assoc.put k (.table origin sub) ms
    | some (.tables earlier last) =>
      (change f ks last).map fun last => Assoc.put k (.tables earlier last) ms
    | some _ => none

/-- The members with a value under a dotted key. Tables on the way that do
not exist are made. The table that receives the value has to be one that
dotted keys have made. -/
def assign (v : Toml) : Key → Members → Option Members
  | [], _ => none
  | [k], ms => ms.add k v
  | k :: l :: ks, ms =>
    match ms.lookup k with
    | none => (assign v (l :: ks) []).map fun sub => Assoc.put k (.table .dotted sub) ms
    | some (.table .dotted sub) =>
      (assign v (l :: ks) sub).map fun sub => Assoc.put k (.table .dotted sub) ms
    | some (.table .implied sub) =>
      if ks.isEmpty then none
      else (assign v (l :: ks) sub).map fun sub => Assoc.put k (.table .implied sub) ms
    | some (.tables earlier last) =>
      if ks.isEmpty then none
      else (assign v (l :: ks) last).map fun last => Assoc.put k (.tables earlier last) ms
    | some _ => none

/-- The members with a table under a header of its own; none if the name
belongs to anything but a table implied so far. -/
def openTable (k : String) (ms : Members) : Option Members :=
  match ms.lookup k with
  | none => some (Assoc.put k (.table .header []) ms)
  | some (.table .implied sub) => some (Assoc.put k (.table .header sub) ms)
  | some _ => none

/-- The members with one more table under a repeated header. -/
def openNextTable (k : String) (ms : Members) : Option Members :=
  match ms.lookup k with
  | none => some (Assoc.put k (.tables [] []) ms)
  | some (.tables earlier last) => some (Assoc.put k (.tables (earlier ++ [last]) []) ms)
  | some _ => none

end Members

/-- A document under construction: the root table, and the header under
which its next values stand. -/
structure Draft where
  root : Members := []
  header : Key := []

namespace Draft

/-- The document with a value under the current header. -/
def assign (d : Draft) (k : Key) (v : Toml) : Option Draft :=
  (d.root.change (Members.assign v k) d.header).map fun root => { d with root := root }

/-- The document after a header. -/
def openTable (d : Draft) (k : Key) : Option Draft := do
  let name ← k.getLast?
  let root ← d.root.change (Members.openTable name) k.dropLast
  pure ⟨root, k⟩

/-- The document after a repeated header. -/
def openNextTable (d : Draft) (k : Key) : Option Draft := do
  let name ← k.getLast?
  let root ← d.root.change (Members.openNextTable name) k.dropLast
  pure ⟨root, k⟩

end Draft

end Toml

end ObjcDecl
