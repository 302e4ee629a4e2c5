import ObjcDecl.Json.Basic
import ObjcDecl.Text.Digit

/-!
# Writing JSON text

Values are written without white space. In strings, quotes, backslashes
and control characters are escaped and everything else stands as it is.
A value without meaning is written as a text that has none either.
-/

namespace ObjcDecl.Json

/-- A character as it stands in a string literal. -/
def escapeChar (c : Char) : List Char :=
  if c = '"' then ['\\', '"']
  else if c = '\\' then ['\\', '\\']
  else if c = '\x08' then ['\\', 'b']
  else if c = '\x0c' then ['\\', 'f']
  else if c = '\n' then ['\\', 'n']
  else if c = '\r' then ['\\', 'r']
  else if c = '\t' then ['\\', 't']
  else if c.toNat < 0x20 then
    ['\\', 'u', '0', '0', Text.hexDigit (c.toNat / 16), Text.hexDigit (c.toNat % 16)]
  else [c]

/-- A string literal. -/
def quote (s : String) : String := "\"" ++ String.ofList (s.toList.flatMap escapeChar) ++ "\""

/-- A string literal without meaning. -/
def unreadableText : String := "\"\\ud800\""

/-- The name of a member. -/
def renderName : Option String → String
  | some k => quote k
  | none => unreadableText

mutual

/-- The text of a value. -/
def render : Json → String
  | .null => "null"
  | .bool true => "true"
  | .bool false => "false"
  | .integer n => toString n
  | .decimal m e => toString m ++ "e" ++ toString e
  | .string s => quote s
  | .array [] => "[]"
  | .array (j :: js) => "[" ++ render j ++ renderItems js ++ "]"
  | .object [] => "\x7b\x7d"
  | .object ((k, j) :: ms) =>
    "\x7b" ++ renderName k ++ ":" ++ render j ++ renderMembers ms ++ "\x7d"
  | .unreadable => unreadableText
  | .broken => ""

/-- The text of the items after the first. -/
def renderItems : List Json → String
  | [] => ""
  | j :: js => "," ++ render j ++ renderItems js

/-- The text of the members after the first. -/
def renderMembers : List (Option String × Json) → String
  | [] => ""
  | (k, j) :: ms => "," ++ renderName k ++ ":" ++ render j ++ renderMembers ms

end

end ObjcDecl.Json
