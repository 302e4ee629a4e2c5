import ObjcDecl.Json.Reader
import ObjcDecl.Options
import ObjcDecl.Tree.SourceUnit

/-!
# Reading trees

Readers for the tree and for the options. A member of a body names its
kind among its other members, so it is read as a whole before its kind is
known: all of it has to be readable, fields that its kind does not have
included. `buffered` tells readers that they work within such a whole.

Types and documentation tags contain each other; their readers count down
from the depth to which documents may be nested.
-/

namespace ObjcDecl

open Json

/-! ## Types -/

/-- The names of the kinds of types. -/
def NamedKind.names : List (String × NamedKind) :=
  [("primitive", .primitive), ("class", .classType), ("interface", .interfaceType),
   ("object", .rootObject), ("class_handle", .classHandle)]

/-- What is read of a type's kind: the kind of a named type, or the
element type of an array. -/
inductive ReadKind where
  | named (k : NamedKind)
  | arrayOf (element : TypeRef)

/-- The type of a name and a kind. -/
def ReadKind.toTypeRef (name : String) : ReadKind → TypeRef
  | .named k => .named k name
  | .arrayOf element => .array name element

/-- The kinds of types, by name. -/
def kindAlternatives (element : Reader TypeRef) : List (String × Alternative ReadKind) :=
  NamedKind.names.map (fun (n, k) => (n, .plain (.named k))) ++
    [("array", .carrying fun j => (element j).map .arrayOf)]

/-- The record of a type. -/
def typeRefRecord (buffered : Bool) (element : Reader TypeRef) : Record TypeRef where
  fields := .cons ⟨"name", readString, none⟩
    (.cons ⟨"kind", readChoice buffered (kindAlternatives element), none⟩ .nil)
  build := fun (name, kind, _) => kind.toTypeRef name

/-- Reads a type with fewer than the given number of array types around
each other. -/
def readTypeRefWithin (buffered : Bool) : Nat → Reader TypeRef
  | 0 => fun _ => .error .invalid
  | n + 1 => (typeRefRecord buffered (readTypeRefWithin buffered n)).read

/-- Reads a type. -/
def readTypeRef (buffered : Bool) : Reader TypeRef := readTypeRefWithin buffered (depthLimit + 1)

/-! ## Modifiers and annotations -/

/-- The names of the modifiers. -/
def Modifier.names : List (String × Modifier) :=
  [("public", .publicAccess), ("protected", .protectedAccess), ("private", .privateAccess),
   ("static", .staticMember), ("final", .final), ("abstract", .abstract), ("native", .native),
   ("synthetic", .synthetic)]

/-- Reads a modifier. -/
def readModifier (buffered : Bool) : Reader Modifier :=
  readChoice buffered (Modifier.names.map fun (n, m) => (n, .plain m))

/-- Reads modifiers, repeated ones included. -/
def readModifiers (buffered : Bool) : Reader Modifiers :=
  fun j => (readList (readModifier buffered) j).map Modifiers.mk

/-- The record of an annotation. -/
def annotationRecord : Record Annotation where
  fields := .cons ⟨"type_name", readString, none⟩ .nil
  build := fun (n, _) => ⟨n⟩

/-! ## Documentation comments -/

/-- The record of a tag. -/
def docTagRecord (fragment : Reader DocFragment) : Record DocTag where
  fields := .cons ⟨"name", readOption readString, some none⟩
    (.cons ⟨"fragments", readList fragment, some []⟩ .nil)
  build := fun (n, fs, _) => ⟨n, fs⟩

/-- A tag as a fragment of another one. -/
def DocTag.toFragment (t : DocTag) : DocFragment := .tag t.name t.fragments

/-- The kinds of fragments, by name. -/
def fragmentAlternatives (tag : Reader DocTag) : List (String × Alternative DocFragment) :=
  [("text", .carrying fun j => (readString j).map .text),
   ("tag", .carrying fun j => (tag j).map DocTag.toFragment),
   ("reference", .carrying fun j => (readString j).map .reference)]

/-- Reads a tag with fewer than the given number of tags around each
other. -/
def readDocTagWithin (buffered : Bool) : Nat → Reader DocTag
  | 0 => fun _ => .error .invalid
  | n + 1 =>
    (docTagRecord (readChoice buffered (fragmentAlternatives (readDocTagWithin buffered n)))).read

/-- Reads a tag. -/
def readDocTag (buffered : Bool) : Reader DocTag := readDocTagWithin buffered (depthLimit + 1)

/-- The record of a comment. -/
def docRecord (buffered : Bool) : Record Doc where
  fields := .cons ⟨"tags", readList (readDocTag buffered), none⟩ .nil
  build := fun (ts, _) => ⟨ts⟩

/-- Reads a comment. -/
def readDoc (buffered : Bool) : Reader Doc := (docRecord buffered).read

/-! ## Members -/

/-- The record of a parameter. -/
def parameterRecord (buffered : Bool) : Record Parameter where
  fields := .cons ⟨"name", readString, none⟩ (.cons ⟨"ty", readTypeRef buffered, none⟩ .nil)
  build := fun (n, t, _) => ⟨n, t⟩

/-- The record of a method. -/
def methodRecord (buffered : Bool) : Record Method where
  fields := .cons ⟨"name", readString, none⟩
    (.cons ⟨"declaring_type", readTypeRef buffered, none⟩
    (.cons ⟨"modifiers", readModifiers buffered, some {}⟩
    (.cons ⟨"is_constructor", readBool, some false⟩
    (.cons ⟨"return_type", readTypeRef buffered, none⟩
    (.cons ⟨"parameters", readList (parameterRecord buffered).read, some []⟩
    (.cons ⟨"annotations", readList annotationRecord.read, some []⟩
    (.cons ⟨"javadoc", readOption (readDoc buffered), some none⟩
    (.cons ⟨"selector", readOption readString, some none⟩
    (.cons ⟨"body", readList readString, some []⟩ .nil)))))))))
  build := fun (name, owner, modifiers, isConstructor, returnType, parameters, annotations, doc,
      selector, body, _) =>
    ⟨name, owner, modifiers, isConstructor, returnType, parameters, annotations, doc, selector,
      body⟩

/-- The record of what is known of a variable. -/
def bindingRecord : Record Binding where
  fields := .cons ⟨"is_static", readBool, some false⟩
    (.cons ⟨"is_weak", readBool, some false⟩
    (.cons ⟨"is_primitive_constant", readBool, some false⟩ .nil))
  build := fun (s, w, p, _) => ⟨s, w, p⟩

/-- The record of a variable. -/
def variableRecord : Record Variable where
  fields := .cons ⟨"name", readString, none⟩ (.cons ⟨"binding", bindingRecord.read, some {}⟩ .nil)
  build := fun (n, b, _) => ⟨n, b⟩

/-- The record of a field statement. -/
def fieldRecord (buffered : Bool) : Record Field where
  fields := .cons ⟨"modifiers", readModifiers buffered, some {}⟩
    (.cons ⟨"ty", readTypeRef buffered, none⟩
    (.cons ⟨"fragments", readList variableRecord.read, none⟩
    (.cons ⟨"javadoc", readOption (readDoc buffered), some none⟩ .nil)))
  build := fun (ms, t, vs, d, _) => ⟨ms, t, vs, d⟩

/-- The record of a function. -/
def functionRecord (buffered : Bool) : Record Function where
  fields := .cons ⟨"name", readString, none⟩
    (.cons ⟨"return_type", readTypeRef buffered, none⟩
    (.cons ⟨"parameters", readList (parameterRecord buffered).read, some []⟩
    (.cons ⟨"modifiers", readModifiers buffered, some {}⟩
    (.cons ⟨"body", readList readString, some []⟩ .nil))))
  build := fun (n, t, ps, ms, b, _) => ⟨n, t, ps, ms, b⟩

/-- The record of a block of target code. -/
def nativeRecord : Record NativeBlock where
  fields := .cons ⟨"header_code", readOption readString, some none⟩
    (.cons ⟨"implementation_code", readOption readString, some none⟩ .nil)
  build := fun (h, i, _) => ⟨h, i⟩

/-- The record of an initializer. -/
def initializerRecord : Record Member where
  fields := .cons ⟨"is_static", readBool, none⟩ .nil
  build := fun (s, _) => .initializer s

/-- The record of an enum constant. -/
def enumConstantRecord : Record Member where
  fields := .cons ⟨"name", readString, none⟩ .nil
  build := fun (n, _) => .enumConstant n

/-- The record of an annotation member. -/
def annotationMemberRecord (buffered : Bool) : Record AnnotationMember where
  fields := .cons ⟨"name", readString, none⟩ (.cons ⟨"ty", readTypeRef buffered, none⟩ .nil)
  build := fun (n, t, _) => ⟨n, t⟩

/-- The readers for the kinds of members, by name. Each reads what is left
without the kind. -/
def memberReaders : List (String × Reader Member) :=
  [("method", fun j => ((methodRecord true).read j).map .method),
   ("field", fun j => ((fieldRecord true).read j).map .field),
   ("function", fun j => ((functionRecord true).read j).map .function),
   ("native", fun j => (nativeRecord.read j).map .native),
   ("initializer", initializerRecord.read),
   ("enum_constant", enumConstantRecord.read),
   ("annotation_member", fun j => ((annotationMemberRecord true).read j).map .annotationMember)]

/-- Reads the name of a member's kind, and gives the reader for it. -/
def readMemberKind : Json → Except ReadError (Reader Member)
  | .string s =>
    match memberReaders.lookup s with
    | some r => .ok r
    | none => .error (.unknownVariant s (memberReaders.map (·.1)))
  | _ => .error .invalid

/-- Takes the kind out of an object's members. Members before and after it
have to be readable; a second kind is a fault. -/
def takeKind : Option (Reader Member) → List (Option String × Json) →
    Except ReadError (Option (Reader Member) × List (Option String × Json))
  | kind, [] => .ok (kind, [])
  | _, (none, _) :: _ => .error .invalid
  | kind, (some k, j) :: ms =>
    if k = "kind" then
      if kind.isSome then .error (.duplicateField "kind")
      else do
        let r ← readMemberKind j
        takeKind (some r) ms
    else if j.isReadable then do
      let (kind, rest) ← takeKind kind ms
      pure (kind, (some k, j) :: rest)
    else .error .invalid

/-- Reads a member of a body: an object with its kind among its members,
or an array that starts with its kind. -/
def readMember : Reader Member
  | .object ms => do
    match ← takeKind none ms with
    | (none, _) => .error (.missingField "kind")
    | (some r, rest) => r (.object rest)
  | .array [] => .error (.missingField "kind")
  | .array (j :: js) => do
    let r ← readMemberKind j
    if (Json.array js).isReadable then r (.array js) else .error .invalid
  | _ => .error .invalid

/-! ## Types and units -/

/-- The names of the kinds of declared types. -/
def DeclKind.names : List (String × DeclKind) :=
  [("class", .classDecl), ("enum", .enumDecl), ("annotation", .annotationDecl)]

/-- Reads the kind of a declared type. -/
def readDeclKind : Reader DeclKind :=
  readChoice false (DeclKind.names.map fun (n, k) => (n, .plain k))

/-- The record of a type declaration. -/
def typeDeclRecord : Record TypeDecl where
  fields := .cons ⟨"kind", readDeclKind, none⟩
    (.cons ⟨"ty", readTypeRef false, none⟩
    (.cons ⟨"superclass", readOption (readTypeRef false), some none⟩
    (.cons ⟨"interfaces", readList (readTypeRef false), some []⟩
    (.cons ⟨"modifiers", readModifiers false, some {}⟩
    (.cons ⟨"javadoc", readOption (readDoc false), some none⟩
    (.cons ⟨"body", readList readMember, some []⟩
    (.cons ⟨"class_init_statements", readList readString, some []⟩ .nil)))))))
  build := fun (k, t, s, is, ms, d, b, ci, _) => ⟨k, t, s, is, ms, d, b, ci⟩

/-- The record of a source unit. -/
def sourceUnitRecord : Record SourceUnit where
  fields := .cons ⟨"source_path", readString, none⟩
    (.cons ⟨"types", readList typeDeclRecord.read, none⟩ .nil)
  build := fun (p, ts, _) => ⟨p, ts⟩

/-- Reads the text of a source unit. -/
def SourceUnit.ofText (s : String) : Except ReadError SourceUnit :=
  readText sourceUnitRecord.read s

/-! ## Options -/

/-- The record of the options, which knows no other names. -/
def optionsRecord : Record Options where
  fields := .cons ⟨"emit-deprecated-declarations", readBool, some true⟩
    (.cons ⟨"hide-private-members", readBool, some false⟩ .nil)
  build := fun (e, h, _) => ⟨e, h⟩
  refusesUnknown := true

end ObjcDecl
