import ObjcDecl.Output.Block
import ObjcDecl.Text.Replace
import ObjcDecl.Text.Sentence
import ObjcDecl.Text.Split
import ObjcDecl.Tree.Doc
import ObjcDecl.Unicode.WhiteSpace

/-!
# Documentation comments in the target

A structured comment becomes a framed block of lines:

    /**
     @brief First sentence.
     Rest of the description.
     @param key the key to look up
     */

Text of the source is escaped, so it can neither give directives to a
documentation tool nor end the comment, and a text wrapped over several
lines is put on one.
-/

namespace ObjcDecl.DocComment

open Text Unicode

/-- Doubles every `@` and parts every comment opener and closer. -/
def escape (cs : List Char) : List Char :=
  replacePair '*' '/' ['*', '\\', '/']
    (replacePair '/' '*' ['/', '\\', '*'] (replaceChar '@' ['@', '@'] cs))

/-- Whether a character ends a line of the source. -/
def isLineBreak (c : Char) : Bool := c == '\r' || c == '\n'

/-- The lines of a text, trimmed, joined by single spaces; lines without
content are dropped. -/
def joinLines (cs : List Char) : List Char :=
  joinWith [' '] (((splitWhere isLineBreak cs).map trim).filter fun l => !l.isEmpty)

/-- Tags that are kept with their names. -/
def keptTags : List String :=
  ["@author", "@exception", "@param", "@return", "@since", "@throws", "@version"]

/-- Tags of which nothing is kept: one is written as an attribute, the
other is a cross-reference. -/
def droppedTags : List String := ["@deprecated", "@see"]

/-- The text of a tag with the given name and content. A tag of an
unknown name gives its content alone. -/
def tagText (name : Option String) (content : List Char) : List Char :=
  match name with
  | none => content
  | some n =>
    if keptTags.contains n then n.toList ++ ' ' :: content
    else if droppedTags.contains n then []
    else if n = "@code" then "<code>".toList ++ content ++ "</code>".toList
    else content

mutual

/-- The text of a fragment. -/
def fragmentText : DocFragment → List Char
  | .text s => joinLines (escape s.toList)
  | .reference s => joinLines (escape s.toList)
  | .tag name fragments => tagText name (trim (spacedText fragments))

/-- The texts of fragments, a space before each. -/
def spacedText : List DocFragment → List Char
  | [] => []
  | f :: fs => ' ' :: fragmentText f ++ spacedText fs

end

/-- The text of a list of fragments. -/
def contentText (fragments : List DocFragment) : List Char := trim (spacedText fragments)

/-- The line of a text, none for the empty text. -/
def lineOf : List Char → List (List Char)
  | [] => []
  | c :: cs => [c :: cs]

/-- The lines of a description: the first sentence as the brief and the
rest on a line of its own. Without a sentence there is one line. -/
def descriptionLines (detect : SentenceDetector) (text : List Char) : List (List Char) :=
  match detect text with
  | some n => ("@brief ".toList ++ trim (text.take n)) :: lineOf (trim (text.drop n))
  | none => lineOf (trim text)

/-- The lines of a tag. -/
def tagLines (detect : SentenceDetector) (t : DocTag) : List (List Char) :=
  match t.name with
  | none => descriptionLines detect (contentText t.fragments)
  | some n => lineOf (tagText (some n) (contentText t.fragments))

/-- The content lines of a comment, without its frame. -/
def lines (detect : SentenceDetector) (d : Doc) : List String :=
  (d.tags.flatMap (tagLines detect)).map String.ofList

/-- The framed comment at the current level; nothing without a comment. -/
def block (detect : SentenceDetector) : Option Doc → Block
  | none => []
  | some d =>
    Line.nested 0 "/**" :: (lines detect d).map (fun l => Line.nested 0 (" " ++ l))
      ++ [.nested 0 " */"]

end ObjcDecl.DocComment
