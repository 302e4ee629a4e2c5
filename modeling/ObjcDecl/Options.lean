/-!
# Options

The switches of one generation run. They are fixed before a run starts
and every emitter reads them from the same place.
-/

namespace ObjcDecl

/-- The switches that change what is declared. -/
structure Options where
  /-- Mark deprecated declarations with an attribute, and keep the
  compiler quiet about their use within the generated files. -/
  emitDeprecated : Bool := true
  /-- Keep private members out of the header. -/
  hidePrivate : Bool := false
deriving DecidableEq, Repr

end ObjcDecl
