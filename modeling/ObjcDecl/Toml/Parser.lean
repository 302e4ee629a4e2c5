import ObjcDecl.Toml.Word

/-!
# Reading TOML text

`ofText` gives the named values of a document, or nothing if the text is
no document. A document is a row of lines: blank ones, headers, and keys
with values. Values in brackets and braces may go on over line ends.

The recursion counts down from a number that the length of the text
bounds; `levelLimit` bounds how deep values nest.
-/

namespace ObjcDecl.Toml

/-- The number of brackets and braces that may stand around a value, and
of names in a key. -/
def levelLimit : Nat := 80

/-! ## Between values -/

/-- The text without the blanks at its head. -/
def skipBlanks (cs : List Char) : List Char := cs.dropWhile isBlank

/-- The text after the end of a line that may hold a comment and nothing
else. -/
def afterLine : (inComment : Bool) → List Char → Option (List Char)
  | _, [] => some []
  | _, '\n' :: cs => some cs
  | _, '\r' :: '\n' :: cs => some cs
  | true, c :: cs => if isPlain c then afterLine true cs else none
  | false, c :: cs =>
    if isBlank c then afterLine false cs
    else if c = '#' then afterLine true cs
    else none

/-- The text after blanks, comments and line ends. -/
def skipLines : (inComment : Bool) → List Char → Option (List Char)
  | _, [] => some []
  | _, '\n' :: cs => skipLines false cs
  | _, '\r' :: '\n' :: cs => skipLines false cs
  | true, c :: cs => if isPlain c then skipLines true cs else none
  | false, c :: cs =>
    if isBlank c then skipLines false cs
    else if c = '#' then skipLines true cs
    else some (c :: cs)

/-! ## Keys -/

/-- Whether a character may stand in a name without quotes. -/
def isNameChar (c : Char) : Bool := c.isAlphanum || c == '_' || c == '-'

/-- A name at the head of a text. -/
def name : List Char → Option (String × List Char)
  | '"' :: cs => lineString '"' true cs
  | '\'' :: cs => lineString '\'' false cs
  | cs =>
    match cs.takeWhile isNameChar with
    | [] => none
    | n => some (String.ofList n, cs.dropWhile isNameChar)

/-- A key at the head of a text, and the text after the blanks that follow
it. The number bounds the names that the key may have. -/
def key : Nat → List Char → Option (Key × List Char)
  | 0, _ => none
  | n + 1, cs => do
    let (k, cs) ← name (skipBlanks cs)
    match skipBlanks cs with
    | '.' :: cs => do
      let (ks, cs) ← key n cs
      pure (k :: ks, cs)
    | cs => pure ([k], cs)

/-! ## Values -/

mutual

/-- A value at the head of a text, nested at most `levels` deep. -/
def value : (fuel levels : Nat) → List Char → Option (Toml × List Char)
  | 0, _, _ => none
  | fuel + 1, levels, cs =>
    match cs, levels with
    | '[' :: cs, levels + 1 => do
      let cs ← skipLines false cs
      let (vs, cs) ← items fuel levels cs
      pure (.array vs, cs)
    | '{' :: cs, levels + 1 => do
      let cs ← skipLines false cs
      let (ms, cs) ← members fuel levels [] cs
      pure (.table .inline ms, cs)
    | '"' :: _, _ | '\'' :: _, _ => do
      let (s, cs) ← stringLiteral cs
      pure (.string s, cs)
    | cs, _ => do
      let (w, cs) := word cs
      let v ← wordValue w
      pure (v, cs)

/-- The items of an array, up to its closing bracket. -/
def items : (fuel levels : Nat) → List Char → Option (List Toml × List Char)
  | 0, _, _ => none
  | _, _, ']' :: cs => some ([], cs)
  | fuel + 1, levels, cs => do
    let (v, cs) ← value fuel levels cs
    match ← skipLines false cs with
    | ',' :: cs => do
      let cs ← skipLines false cs
      let (vs, cs) ← items fuel levels cs
      pure (v :: vs, cs)
    | ']' :: cs => pure ([v], cs)
    | _ => none

/-- The members of a table in braces, added to those before them, up to
its closing brace. Lines may end anywhere but within a key or a value. -/
def members : (fuel levels : Nat) → Members → List Char → Option (Members × List Char)
  | 0, _, _, _ => none
  | _, _, ms, '}' :: cs => some (ms, cs)
  | fuel + 1, levels, ms, cs => do
    let (k, cs) ← key levelLimit cs
    let cs ← expect '=' (← skipLines false cs)
    let (v, cs) ← value fuel levels (← skipLines false cs)
    let ms ← ms.assign v k
    match ← skipLines false cs with
    | ',' :: cs => do
      let cs ← skipLines false cs
      members fuel levels ms cs
    | '}' :: cs => pure (ms, cs)
    | _ => none

end

/-! ## Documents -/

/-- A header after its opening brackets, up to the end of its line. -/
def header (closing : List Char) (cs : List Char) : Option (Key × List Char) := do
  let (k, cs) ← key levelLimit cs
  if closing.isPrefixOf cs then do
    let cs ← afterLine false (cs.drop closing.length)
    pure (k, cs)
  else none

/-- A key and its value, up to the end of the line. -/
def assignment (cs : List Char) : Option (Key × Toml × List Char) := do
  let (k, cs) ← key levelLimit cs
  let cs ← expect '=' cs
  let cs := skipBlanks cs
  let (v, cs) ← value (2 * cs.length + 2) levelLimit cs
  let cs ← afterLine false cs
  pure (k, v, cs)

/-- The document after one line that is not blank, and the text after it. -/
def line (d : Draft) : List Char → Option (Draft × List Char)
  | '[' :: '[' :: cs => do
    let (k, cs) ← header [']', ']'] cs
    let d ← d.openNextTable k
    pure (d, cs)
  | '[' :: cs => do
    let (k, cs) ← header [']'] cs
    let d ← d.openTable k
    pure (d, cs)
  | cs => do
    let (k, v, cs) ← assignment cs
    let d ← d.assign k v
    pure (d, cs)

/-- The document after all lines of a text. -/
def lines : Nat → Draft → List Char → Option Draft
  | _, d, [] => some d
  | 0, _, _ :: _ => none
  | fuel + 1, d, cs =>
    match afterLine false cs with
    | some cs => lines fuel d cs
    | none => do
      let (d, cs) ← line d (skipBlanks cs)
      lines fuel d cs

/-- A text without a byte order mark at its head. -/
def dropMark : List Char → List Char
  | '\uFEFF' :: cs => cs
  | cs => cs

/-- The named values of a document. -/
def ofText (s : String) : Option Members :=
  let cs := dropMark s.toList
  (lines cs.length {} cs).map (·.root)

end ObjcDecl.Toml
