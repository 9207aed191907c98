import ModalLexer.Catalog.Basic
import ModalLexer.Catalog.Builtin
import ModalLexer.CharSet
import ModalLexer.CharSet.ByteRanges
import ModalLexer.CommandLine.Arguments
import ModalLexer.CommandLine.Basic
import ModalLexer.Config
import ModalLexer.Detection
import ModalLexer.Engine.Basic
import ModalLexer.Engine.Run
import ModalLexer.Engine.State
import ModalLexer.FileName.Glob
import ModalLexer.FileName.Path
import ModalLexer.Grammar.Basic
import ModalLexer.Json
import ModalLexer.Language.C
import ModalLexer.Language.Ini
import ModalLexer.Main
import ModalLexer.Pattern.Basic
import ModalLexer.Pattern.Class
import ModalLexer.Pattern.Construction
import ModalLexer.Pattern.Effort
import ModalLexer.Pattern.Expr
import ModalLexer.Pattern.Footprint
import ModalLexer.Pattern.Matcher
import ModalLexer.Pattern.Parser
import ModalLexer.Proofs.Catalog.Candidates
import ModalLexer.Proofs.Catalog.Registration
import ModalLexer.Proofs.CharSet
import ModalLexer.Proofs.CommandLine.Agreement
import ModalLexer.Proofs.Detection.Selection
import ModalLexer.Proofs.Engine.Conservation
import ModalLexer.Proofs.Engine.Diagnostics
import ModalLexer.Proofs.Engine.Frame
import ModalLexer.Proofs.Engine.Halting
import ModalLexer.Proofs.Engine.Idling
import ModalLexer.Proofs.Engine.Lexing
import ModalLexer.Proofs.Engine.Lockstep
import ModalLexer.Proofs.Engine.Markers
import ModalLexer.Proofs.Engine.Naming
import ModalLexer.Proofs.Engine.Passes
import ModalLexer.Proofs.Engine.Requests
import ModalLexer.Proofs.Engine.Safety
import ModalLexer.Proofs.Engine.Soundness
import ModalLexer.Proofs.Engine.Stopping
import ModalLexer.Proofs.Engine.Termination
import ModalLexer.Proofs.Engine.Thrift
import ModalLexer.Proofs.Engine.Transfer
import ModalLexer.Proofs.Grammar.Compilation
import ModalLexer.Proofs.Grammar.Soundness
import ModalLexer.Proofs.Language.Acceptance
import ModalLexer.Proofs.Language.C.Nesting
import ModalLexer.Proofs.Language.C.Shapes
import ModalLexer.Proofs.Language.C.Steps
import ModalLexer.Proofs.Language.C.Uniformity
import ModalLexer.Proofs.Language.Ini.Lines
import ModalLexer.Proofs.Language.Ini.Steps
import ModalLexer.Proofs.Language.Scores
import ModalLexer.Proofs.Pattern.Agreement
import ModalLexer.Proofs.Pattern.Captures
import ModalLexer.Proofs.Pattern.Certainty
import ModalLexer.Proofs.Pattern.Enclosing
import ModalLexer.Proofs.Pattern.Evaluation
import ModalLexer.Proofs.Pattern.Extent
import ModalLexer.Proofs.Pattern.Locality.Basic
import ModalLexer.Proofs.Pattern.Locality.Escapes
import ModalLexer.Proofs.Pattern.Locality.Sets
import ModalLexer.Proofs.Pattern.Locality.Steps
import ModalLexer.Proofs.Pattern.Parts
import ModalLexer.Proofs.Pattern.Reading
import ModalLexer.Proofs.Pattern.Renumbering
import ModalLexer.Proofs.Pattern.Tying
import ModalLexer.Proofs.Queue.Compaction
import ModalLexer.Proofs.Queue.Fifo
import ModalLexer.Proofs.Queue.Storage
import ModalLexer.Proofs.Report.Detection
import ModalLexer.Proofs.Report.Errors
import ModalLexer.Proofs.Report.Palette
import ModalLexer.Proofs.Report.Scan
import ModalLexer.Proofs.Report.Types
import ModalLexer.Proofs.Rule.Anchoring
import ModalLexer.Proofs.Rule.Choice
import ModalLexer.Proofs.Rule.Composition
import ModalLexer.Proofs.Rule.Cutting
import ModalLexer.Proofs.Rule.Decimal
import ModalLexer.Proofs.Rule.Emission
import ModalLexer.Proofs.Rule.Flat
import ModalLexer.Proofs.Rule.Passage
import ModalLexer.Proofs.Rule.Predefined
import ModalLexer.Proofs.Rule.SingleEmission
import ModalLexer.Proofs.Rule.Splitting
import ModalLexer.Proofs.Rule.Steps
import ModalLexer.Proofs.Rule.Thrift
import ModalLexer.Proofs.Rule.Trace
import ModalLexer.Proofs.Scanner.Earliest
import ModalLexer.Proofs.Scanner.Extent
import ModalLexer.Proofs.Scanner.Kinds
import ModalLexer.Proofs.Scanner.Literals
import ModalLexer.Proofs.Scanner.NumberGrammar
import ModalLexer.Proofs.Scanner.NumberOffsets
import ModalLexer.Proofs.Scanner.Offsets
import ModalLexer.Proofs.Scanner.Progress
import ModalLexer.Proofs.Scanner.Safety
import ModalLexer.Proofs.Taxonomy.Ancestry
import ModalLexer.Proofs.Taxonomy.Order
import ModalLexer.Proofs.Taxonomy.Preorder
import ModalLexer.Proofs.Taxonomy.Registration
import ModalLexer.Proofs.Text.Bytes
import ModalLexer.Proofs.Text.Quoted
import ModalLexer.Queue
import ModalLexer.Report.Detection
import ModalLexer.Report.Grammars
import ModalLexer.Report.Palette
import ModalLexer.Report.Scan
import ModalLexer.Report.Types
import ModalLexer.Rule.Action
import ModalLexer.Rule.Basic
import ModalLexer.Rule.Predefined
import ModalLexer.Rule.Procedure
import ModalLexer.Scanner.Basic
import ModalLexer.Scanner.Delimited
import ModalLexer.Scanner.Number
import ModalLexer.Scanner.Offset
import ModalLexer.Taxonomy.Arena
import ModalLexer.Taxonomy.Basic
import ModalLexer.Taxonomy.Tree
import ModalLexer.Text.Basic
import ModalLexer.Text.Hexadecimal
import ModalLexer.Text.Quoted
import ModalLexer.Token
import ModalLexer.TokenType
import ModalLexer.Toml.Document
import ModalLexer.Toml.Scalar
import ModalLexer.Toml.Table
import ModalLexer.Toml.Value
import ModalLexer.Unicode.Age
import ModalLexer.Unicode.Alphabetic
import ModalLexer.Unicode.CaseFolding
import ModalLexer.Unicode.CaseMapping
import ModalLexer.Unicode.Category
import ModalLexer.Unicode.Extender
import ModalLexer.Unicode.Printable
import ModalLexer.Unicode.Property
import ModalLexer.Unicode.Script
import ModalLexer.Unicode.Segmentation
import ModalLexer.Unicode.Space
import ModalLexer.Unicode.Word
