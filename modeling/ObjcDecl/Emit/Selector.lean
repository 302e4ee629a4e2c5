import ObjcDecl.Fault
import ObjcDecl.Naming.Basic
import ObjcDecl.Text.Capital
import ObjcDecl.Text.Spacing

/-!
# Signatures

A selector is a row of segments, each ended by a colon and followed by a
parameter; a method without parameters has a single segment and no colon.
Every parameter but the first starts a line of its own, and these lines
are padded so that the colons stand in one column:

    - (void)putKey:(NSString *)key
             value:(id)value
-/

namespace ObjcDecl

open Text

namespace Selector

/-- The segments of a selector, without their colons. -/
def segments (selector : String) : List String :=
  (splitTerminated ':' selector.toList).map String.ofList

/-- The head of every constructor's selector. -/
def initHead : String := "init"

/-- The selector of an inner type's constructor: the head is followed by
the name of the type, so that it differs from the selectors of the outer
type. -/
def inner (selector ownerName : String) : Except Fault String :=
  if initHead.toList.isPrefixOf selector.toList then
    .ok (initHead ++ ownerName ++ String.ofList (selector.toList.drop initHead.toList.length))
  else .error (.initHeadMissing selector)

end Selector

/-- Whether a text ends in a character. -/
def endsIn (c : Char) (s : String) : Bool := s.toList.getLast? == some c

/-- A type followed by a name; a `*` stays against the name. -/
def declarator (type name : String) : String :=
  if endsIn '*' type then type ++ name else type ++ " " ++ name

namespace Signature

/-- The return type of every constructor. -/
def instanceType : String := "instancetype"

/-- The return type in the declaration of a method under a selector. The
selector `hash` has a return type of its own. -/
def returnText (names : Naming) (m : Method) (selector : String) : String :=
  if m.isConstructor then instanceType
  else if selector = "hash" then "NSUInteger"
  else names.typeText m.returnType

/-- What precedes the selector: the kind of method and its return type. -/
def head (names : Naming) (m : Method) (selector : String) : String :=
  (if m.isStatic then "+" else "-") ++ " (" ++ returnText names m selector ++ ")"

/-- A segment with its parameter. -/
def part (names : Naming) (segment : String) (p : Parameter) : String :=
  segment ++ ":(" ++ names.specificTypeText p.type ++ ")" ++ names.variableName p.name

/-- A line for a parameter after the first, padded to put its colon into
column `base`; a segment too long for that starts at the margin. -/
def continuation (names : Naming) (base : Nat) (segment : String) (p : Parameter) : String :=
  "\n" ++ pad (base - segment.length) ++ part names segment p

/-- Segments and parameters, line by line. -/
def parts (names : Naming) (headWidth : Nat) : List (String × Parameter) → String
  | [] => ""
  | (s, p) :: rest =>
    part names s p ++
      String.join (rest.map fun (t, q) => continuation names (headWidth + s.length) t q)

/-- The declaration of a method under a selector, without its semicolon. -/
def method (names : Naming) (m : Method) (selector : String) : Except Fault String :=
  let segments := Selector.segments selector
  let head := head names m selector
  if m.parameters.isEmpty then
    if segments.length = 1 ∧ endsIn ':' selector = false then .ok (head ++ String.join segments)
    else .error (.selectorNotSingle selector m.name)
  else if segments.length = m.parameters.length then
    .ok (head ++ parts names head.length (segments.zip m.parameters))
  else .error (.arityMismatch selector m.name segments.length m.parameters.length)

/-- The declaration of a normal method under its own selector. -/
def normalMethod (names : Naming) (m : Method) : Except Fault String :=
  if m.isConstructor then .error (.constructorAsMethod m.name)
  else method names m (names.selector m)

/-- The declaration of a constructor under its own selector, or under that
of an inner type's constructor. -/
def constructor (names : Naming) (m : Method) (isInner : Bool) : Except Fault String :=
  if m.isConstructor then
    if isInner then do
      method names m (← Selector.inner (names.selector m) (names.fullName m.owner))
    else method names m (names.selector m)
  else .error (.methodAsConstructor m.name)

/-- The name of the parameter for an annotation member; the underscores
keep it apart from reserved words. -/
def memberParameter (m : AnnotationMember) : String := m.propertyName ++ "__"

/-- The segment of an annotation member with its parameter. -/
def memberPart (names : Naming) (m : AnnotationMember) : String :=
  capitalize m.propertyName ++ ":(" ++ names.specificTypeText m.type ++ ")" ++ memberParameter m

/-- The segments of sorted annotation members. -/
def memberParts (names : Naming) : List AnnotationMember → String
  | [] => ""
  | m :: ms =>
    "With" ++ memberPart names m ++ String.join (ms.map fun n => " with" ++ memberPart names n)

/-- The constructor of an annotation type, which takes all its members. -/
def annotationConstructor (names : Naming) (ms : List AnnotationMember) : String :=
  "- (" ++ instanceType ++ ")" ++ Selector.initHead ++
    memberParts names (AnnotationMember.sorted ms)

/-- A parameter of a function. -/
def functionParameter (names : Naming) (p : Parameter) : String :=
  declarator (names.specificTypeText p.type) (names.variableName p.name)

/-- The prototype of a function, without its semicolon. -/
def function (names : Naming) (f : Function) : String :=
  declarator (names.typeText f.returnType) f.name ++ "(" ++
    String.intercalate ", " (f.parameters.map (functionParameter names)) ++ ")"

end Signature

end ObjcDecl
