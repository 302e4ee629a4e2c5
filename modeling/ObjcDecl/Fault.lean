/-!
# Faults

What stops generation: a tree that breaks a promise its callers make, a
deprecation region opened and closed out of turn, or a text beyond all
bounds. Each cause is a
constructor; the wording is `Fault.message` and nothing else.
-/

namespace ObjcDecl

/-- The ways in which generation can stop. -/
inductive Fault where
  /-- A method without parameters needs a selector of one segment and no
  colon. -/
  | selectorNotSingle (selector method : String)
  /-- A method with parameters needs one selector segment for each. -/
  | arityMismatch (selector method : String) (segments parameters : Nat)
  /-- The selector of an inner type's constructor starts with `init`. -/
  | initHeadMissing (selector : String)
  /-- A constructor was declared as a normal method. -/
  | constructorAsMethod (method : String)
  /-- A normal method was declared as a constructor. -/
  | methodAsConstructor (method : String)
  /-- A printed field statement declares at least one variable. -/
  | variablesMissing (type owner : String)
  /-- A new field statement declares at least one variable. -/
  | emptyField
  /-- A deprecation region was opened inside another. -/
  | regionNested
  /-- A deprecation region was closed though none was open. -/
  | regionNotOpen
  /-- The text was finished inside a deprecation region. -/
  | regionLeftOpen
  /-- A text was asked for that is longer than any text. -/
  | textTooLong
deriving DecidableEq, Repr

/-- The wording of a fault. -/
def Fault.message : Fault → String
  | .selectorNotSingle s m =>
    "selector `" ++ s ++ "` of `" ++ m ++ "` must be a single segment without a colon"
  | .arityMismatch s m k n =>
    "assertion `left == right` failed: selector `" ++ s ++ "` of `" ++ m ++
      "` does not match its parameter count\n  left: " ++ toString k ++
      "\n right: " ++ toString n
  | .initHeadMissing s => "constructor selector `" ++ s ++ "` does not start with `init`"
  | .constructorAsMethod m => "`" ++ m ++ "` is a constructor; use constructor_declaration"
  | .methodAsConstructor m => "`" ++ m ++ "` is not a constructor"
  | .variablesMissing t o => "field of type `" ++ t ++ "` in `" ++ o ++ "` has no fragments"
  | .emptyField => "field declaration without fragments"
  | .regionNested => "deprecation pragma pushed twice without a pop"
  | .regionNotOpen => "deprecation pragma popped without a push"
  | .regionLeftOpen => "deprecation pragma pushed without a matching pop"
  | .textTooLong => "capacity overflow"

end ObjcDecl
