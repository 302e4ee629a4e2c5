import ObjcDecl.GeneratedFiles
import ObjcDecl.Visit.Header
import ObjcDecl.Visit.Implementation

/-!
# Printed files

A file of a unit is printed by one visitor on one writer, type after type.
A type can also be printed alone, by a visitor that has seen no other type
and on a writer that holds nothing yet.
-/

namespace ObjcDecl

namespace TypeDecl

/-- The header of a type alone. -/
def printedHeader (d : TypeDecl) (o : Options) : Except Fault String :=
  Printer.text (SourceUnit.context o) {} (Header.Visitor.type d)

/-- The implementation of a type alone. -/
def printedImplementation (d : TypeDecl) (o : Options) : Except Fault String :=
  Printer.text (SourceUnit.context o) {} (Implementation.Visitor.type d)

end TypeDecl

namespace SourceUnit

/-- The header as it is printed. -/
def printedHeader (u : SourceUnit) (o : Options) : Except Fault String :=
  Printer.text (context o) {} (Header.Visitor.unit u (u.fileName.getD ""))

/-- The implementation as it is printed. -/
def printedImplementation (u : SourceUnit) (o : Options) : Except Fault String :=
  Printer.text (context o) {} (Implementation.Visitor.unit u (u.fileName.getD ""))

end SourceUnit

end ObjcDecl
