import ObjcDecl.Assoc
import ObjcDecl.Command.Arguments
import ObjcDecl.Command.Report
import ObjcDecl.Command.Run
import ObjcDecl.Emit.Attributes
import ObjcDecl.Emit.Context
import ObjcDecl.Emit.Dispatch
import ObjcDecl.Emit.DocComment
import ObjcDecl.Emit.EnumSupport
import ObjcDecl.Emit.Fields
import ObjcDecl.Emit.Header
import ObjcDecl.Emit.Hidden
import ObjcDecl.Emit.Implementation
import ObjcDecl.Emit.Piece
import ObjcDecl.Emit.Preamble
import ObjcDecl.Emit.Selector
import ObjcDecl.Emit.Statics
import ObjcDecl.Fault
import ObjcDecl.Files.Access
import ObjcDecl.Files.Path
import ObjcDecl.Files.Tree
import ObjcDecl.GeneratedFiles
import ObjcDecl.Json.Basic
import ObjcDecl.Json.Double
import ObjcDecl.Json.Literal
import ObjcDecl.Json.Parser
import ObjcDecl.Json.Printer
import ObjcDecl.Json.Reader
import ObjcDecl.Main
import ObjcDecl.Naming.Basic
import ObjcDecl.Naming.Plain
import ObjcDecl.Naming.Prefixed
import ObjcDecl.Options
import ObjcDecl.Options.Load
import ObjcDecl.Output.Block
import ObjcDecl.Output.Indent
import ObjcDecl.Output.Sink
import ObjcDecl.Text.Capital
import ObjcDecl.Text.Digit
import ObjcDecl.Text.Replace
import ObjcDecl.Text.Sentence
import ObjcDecl.Text.Spacing
import ObjcDecl.Text.Split
import ObjcDecl.Toml.Basic
import ObjcDecl.Toml.Moment
import ObjcDecl.Toml.Number
import ObjcDecl.Toml.Parser
import ObjcDecl.Toml.Quoted
import ObjcDecl.Toml.Word
import ObjcDecl.Tree.Doc
import ObjcDecl.Tree.Member
import ObjcDecl.Tree.Modifier
import ObjcDecl.Tree.Read
import ObjcDecl.Tree.SourceUnit
import ObjcDecl.Tree.TypeRef
import ObjcDecl.Tree.Write
import ObjcDecl.Unicode.Run
import ObjcDecl.Unicode.SentenceBreak
import ObjcDecl.Unicode.SentenceBreak.CasedLetters
import ObjcDecl.Unicode.SentenceBreak.Marks
import ObjcDecl.Unicode.SentenceBreak.OtherLetters
import ObjcDecl.Unicode.SentenceBreak.Signs
import ObjcDecl.Unicode.Uppercase
import ObjcDecl.Unicode.WhiteSpace
import ObjcDecl.Visit.Files
import ObjcDecl.Visit.Header
import ObjcDecl.Visit.Implementation
import ObjcDecl.Visit.Printer
import ObjcDecl.Writer
import ObjcDecl.Proofs.Emission
import ObjcDecl.Proofs.Layout
import ObjcDecl.Proofs.Layout.Header
import ObjcDecl.Proofs.Layout.Implementation
import ObjcDecl.Proofs.Layout.Parts
import ObjcDecl.Proofs.InstanceVariables
import ObjcDecl.Proofs.Methods
import ObjcDecl.Proofs.FileSymbols
import ObjcDecl.Proofs.Visit
import ObjcDecl.Proofs.Visit.Header
import ObjcDecl.Proofs.Visit.Implementation
import ObjcDecl.Proofs.Visit.Files
import ObjcDecl.Proofs.Separation
import ObjcDecl.Proofs.PublicPart
import ObjcDecl.Proofs.Annotations
import ObjcDecl.Proofs.Deprecation
import ObjcDecl.Proofs.DocText
import ObjcDecl.Proofs.DocFrame
import ObjcDecl.Proofs.Pieces
import ObjcDecl.Proofs.FieldPrinting
import ObjcDecl.Proofs.Ownership
import ObjcDecl.Proofs.Selectors
import ObjcDecl.Proofs.Overloads
import ObjcDecl.Proofs.PointerMarks
import ObjcDecl.Proofs.BlockGuards
import ObjcDecl.Proofs.DeclaredSelector
import ObjcDecl.Proofs.Alignment
import ObjcDecl.Proofs.WellFormed
import ObjcDecl.Proofs.DocContent
import ObjcDecl.Proofs.SentenceEnd
import ObjcDecl.Proofs.DocDirectives
import ObjcDecl.Proofs.Regions
import ObjcDecl.Proofs.JsonText
import ObjcDecl.Proofs.Records
import ObjcDecl.Proofs.RoundTrip
import ObjcDecl.Proofs.DocEscaping
import ObjcDecl.Proofs.AnnotationConstructor
import ObjcDecl.Proofs.RecordReading
import ObjcDecl.Proofs.Format
import ObjcDecl.Proofs.Faithful
import ObjcDecl.Proofs.FaithfulRecords
import ObjcDecl.Proofs.Presentation
import ObjcDecl.Proofs.Promises
import ObjcDecl.Proofs.OutputPaths
import ObjcDecl.Proofs.WrittenFiles
import ObjcDecl.Proofs.ParameterNames
import ObjcDecl.Proofs.SingleSentence
import ObjcDecl.Proofs.EnumConstants
import ObjcDecl.Proofs.Emitters
