import RestContract.Command.Arguments
import RestContract.Command.Run
import RestContract.Compile.Combination
import RestContract.Compile.Enumeration
import RestContract.Compile.Schema
import RestContract.Console.Basic
import RestContract.Console.Markup
import RestContract.Console.Symbol
import RestContract.Console.Symbol.Table
import RestContract.Context
import RestContract.Contract.Assembly
import RestContract.Contract.Entry
import RestContract.Contract.Expansion
import RestContract.Document.Content
import RestContract.Document.ContentType
import RestContract.Document.Source
import RestContract.Document.Version
import RestContract.Emission
import RestContract.Error
import RestContract.Expr.Basic
import RestContract.Expr.Printer
import RestContract.Formatter
import RestContract.Generation
import RestContract.Json.Reader
import RestContract.Json.Writer
import RestContract.Main
import RestContract.Name
import RestContract.Number.Decimal
import RestContract.Number.Double
import RestContract.Number.Shortest
import RestContract.Operation.Basic
import RestContract.Operation.Extraction
import RestContract.Operation.Method
import RestContract.Operation.Status
import RestContract.Proofs.Acceptance
import RestContract.Proofs.Citation
import RestContract.Proofs.CompiledForm
import RestContract.Proofs.ContractNames
import RestContract.Proofs.DeclarationOrder
import RestContract.Proofs.DeclaredBeforeUse
import RestContract.Proofs.DependencyOrder
import RestContract.Proofs.DependencyWalk
import RestContract.Proofs.ModuleText
import RestContract.Proofs.ReferenceText
import RestContract.Proofs.Resolution
import RestContract.Proofs.RouterKeys
import RestContract.Proofs.Runs
import RestContract.Proofs.UsedNames
import RestContract.Reference
import RestContract.Schema.Declaration
import RestContract.Schema.Graph
import RestContract.Schema.Mention
import RestContract.Schema.Nested
import RestContract.Schema.Order
import RestContract.Settings
import RestContract.Text.Blank
import RestContract.Text.Charset
import RestContract.Text.Charset.Hangul
import RestContract.Text.Charset.Hanzi
import RestContract.Text.Charset.Kanji
import RestContract.Text.Charset.MultiByte
import RestContract.Text.Charset.Table
import RestContract.Text.Charset.Traditional
import RestContract.Text.Cluster
import RestContract.Text.Digits
import RestContract.Text.Encoding
import RestContract.Text.Printable
import RestContract.Text.Quoted
import RestContract.Text.Search
import RestContract.Text.ShellWords
import RestContract.Text.Width
import RestContract.Text.Wrap
import RestContract.Trace
import RestContract.Validation.Constraint
import RestContract.Validation.Default
import RestContract.Validation.Pattern
import RestContract.Value.Access
import RestContract.Value.Basic
import RestContract.Value.Calendar
import RestContract.Value.Display
import RestContract.Value.Equality
import RestContract.Yaml.Complaint
import RestContract.Yaml.Cursor
import RestContract.Yaml.Document
import RestContract.Yaml.Node
import RestContract.Yaml.Node.Document
import RestContract.Yaml.Node.Meaning
import RestContract.Yaml.Node.Merge
import RestContract.Yaml.Node.Unrolled
import RestContract.Yaml.Scalar
import RestContract.Yaml.Tag
import RestContract.Yaml.Timestamp
import RestContract.Yaml.Token
import RestContract.Yaml.Token.Block
import RestContract.Yaml.Token.Lexer
import RestContract.Yaml.Token.Plain
import RestContract.Yaml.Token.Property
import RestContract.Yaml.Token.Quoted
import RestContract.Proofs.Validity
import RestContract.Proofs.Elementary
import RestContract.Proofs.Narrowing
import RestContract.Proofs.TagMeaning
import RestContract.Proofs.SchemaMeaning
import RestContract.Proofs.Compilable
import RestContract.Proofs.MeaningPreserved
import RestContract.Proofs.CodeExpansion
import RestContract.Proofs.ResponseTable
import RestContract.Proofs.OrderableSchemas
import RestContract.Proofs.CanonicalDeclarations
import RestContract.Proofs.KeyOrder
import RestContract.Proofs.SoundWalk
import RestContract.Proofs.TakenSchemas
import RestContract.Proofs.SettledRuns
import RestContract.Proofs.RepeatedReferences
import RestContract.Proofs.OmissibleValues
import RestContract.Proofs.ReferenceKinds
import RestContract.Proofs.ModuleBindings
import RestContract.Proofs.ForeseenRuns
import RestContract.Proofs.DocumentShape
import RestContract.Proofs.ForeseenValidators
import RestContract.Proofs.ForeseenContext
import RestContract.Proofs.ForeseenFailures
import RestContract.Proofs.NormalForm
import RestContract.Proofs.PrintedText
import RestContract.Proofs.UnambiguousText
import RestContract.Proofs.ReadBack
import RestContract.Proofs.ConstantText
import RestContract.Proofs.VisibleText
import RestContract.Proofs.DeliveredValidators
import RestContract.Proofs.DeliveredEntries
import RestContract.Proofs.ModuleLines
import RestContract.Proofs.ExtractedOperations
import RestContract.Proofs.Postorder
import RestContract.Proofs.ReferencesInside
import RestContract.Proofs.ReferenceChains
import RestContract.Proofs.RegexLiteral
import RestContract.Proofs.EmittedCalls
import RestContract.Proofs.EnumeratedValues
import RestContract.Proofs.DeclaredBounds
import RestContract.Proofs.UnlinkedValidators
import RestContract.Proofs.ConstrainedValidators
import RestContract.Proofs.MergeLinks
import RestContract.Proofs.MergedObjects
import RestContract.Proofs.ExactNumbers
import RestContract.Proofs.ValueMeaning
import RestContract.Proofs.MergedParameters
import RestContract.Proofs.ParameterNames
import RestContract.Proofs.DeclaredDefaults
import RestContract.Proofs.CombinationOrder
import RestContract.Proofs.WrittenPatterns
import RestContract.Proofs.CodeSpellings
import RestContract.Proofs.FormattedText
import RestContract.Proofs.WordPattern
import RestContract.Proofs.BodySelection
