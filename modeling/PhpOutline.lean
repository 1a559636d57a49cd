import PhpOutline.Binary64
import PhpOutline.Check
import PhpOutline.Command
import PhpOutline.CommandLine.Arguments
import PhpOutline.CommandLine.Page
import PhpOutline.CommandLine.Request
import PhpOutline.Cursor
import PhpOutline.Declaration
import PhpOutline.Declaration.Brackets
import PhpOutline.Declaration.Member
import PhpOutline.Declaration.Reader
import PhpOutline.Declaration.Reading
import PhpOutline.Declaration.Signature
import PhpOutline.Disk
import PhpOutline.Docblock
import PhpOutline.Document
import PhpOutline.Log
import PhpOutline.Log.Event
import PhpOutline.Marker
import PhpOutline.Md5
import PhpOutline.Path
import PhpOutline.Settings
import PhpOutline.SourceFile
import PhpOutline.SourceFile.Loading
import PhpOutline.SourceFile.Opening
import PhpOutline.SourceFile.Symbols
import PhpOutline.Table
import PhpOutline.Text.Blank
import PhpOutline.Text.Case
import PhpOutline.Text.Digit
import PhpOutline.Text.Lines
import PhpOutline.Text.Quoted
import PhpOutline.Text.Utf8
import PhpOutline.Text.Word
import PhpOutline.Token
import PhpOutline.Token.Lexeme
import PhpOutline.Token.Lexer
import PhpOutline.Xml.Element
import PhpOutline.Xml.Layout
import PhpOutline.Xml.Name
import PhpOutline.Xml.Printer
import PhpOutline.Xml.Reader
import PhpOutline.Yaml.Fault
import PhpOutline.Yaml.Scalar
import PhpOutline.Yaml.Time
import PhpOutline.Yaml.Value
import PhpOutline.Main
import PhpOutline.Program.Base64
import PhpOutline.Program.Encoding
import PhpOutline.Program.Encoding.Charset
import PhpOutline.Program.Encoding.Utf7
import PhpOutline.Program.Numeral
import PhpOutline.Program.Terminal
import PhpOutline.Program.Yaml.Clock
import PhpOutline.Program.Yaml.Composer
import PhpOutline.Program.Yaml.Graph
import PhpOutline.Program.Yaml.Kind
import PhpOutline.Program.Yaml.Lexer
import PhpOutline.Program.Yaml.Number
import PhpOutline.Program.Yaml.Reader
import PhpOutline.Program.Yaml.Token
import PhpOutline.Proofs.Balance
import PhpOutline.Proofs.Characters
import PhpOutline.Proofs.ClosingTag
import PhpOutline.Proofs.Constructs
import PhpOutline.Proofs.Depth
import PhpOutline.Proofs.DocComments
import PhpOutline.Proofs.DocblockLayout
import PhpOutline.Proofs.DocblockText
import PhpOutline.Proofs.ErrorLines
import PhpOutline.Proofs.Fidelity
import PhpOutline.Proofs.FileDocblock
import PhpOutline.Proofs.Fragments
import PhpOutline.Proofs.HeadersIgnoreTrivia
import PhpOutline.Proofs.Heredoc
import PhpOutline.Proofs.Inversion
import PhpOutline.Proofs.Layout
import PhpOutline.Proofs.LexemesAreWords
import PhpOutline.Proofs.LexemesWithinText
import PhpOutline.Proofs.Lifecycle
import PhpOutline.Proofs.Likeness
import PhpOutline.Proofs.Listing
import PhpOutline.Proofs.Loading
import PhpOutline.Proofs.Locality
import PhpOutline.Proofs.Longest
import PhpOutline.Proofs.LookBehind
import PhpOutline.Proofs.Lookahead
import PhpOutline.Proofs.MarkerPlaces
import PhpOutline.Proofs.MarkerRuns
import PhpOutline.Proofs.Markup
import PhpOutline.Proofs.Modes
import PhpOutline.Proofs.Occurrences
import PhpOutline.Proofs.Placement
import PhpOutline.Proofs.Progress
import PhpOutline.Proofs.Provenance
import PhpOutline.Proofs.ReadersIgnoreRest
import PhpOutline.Proofs.Rendering
import PhpOutline.Proofs.RoundTrip
import PhpOutline.Proofs.Scan
import PhpOutline.Proofs.Scoping
import PhpOutline.Proofs.Searches
import PhpOutline.Proofs.SettingsErrors
import PhpOutline.Proofs.Shape
import PhpOutline.Proofs.Spelling
import PhpOutline.Proofs.Splicing
import PhpOutline.Proofs.Statements
import PhpOutline.Proofs.SymbolTables
import PhpOutline.Proofs.Unterminated
import PhpOutline.Proofs.UseLayout
import PhpOutline.Proofs.Utf8
import PhpOutline.Proofs.WellFormed
import PhpOutline.Proofs.Written
import PhpOutline.Proofs.WrittenBody
import PhpOutline.Proofs.WrittenClass
import PhpOutline.Proofs.WrittenHeader
