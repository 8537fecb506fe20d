import SolidityLint.Analysis
import SolidityLint.Check.Basic
import SolidityLint.Check.Braces
import SolidityLint.Check.DataType
import SolidityLint.Check.Keyword
import SolidityLint.Check.Naming
import SolidityLint.Check.Payable
import SolidityLint.Check.Returns
import SolidityLint.Check.Security
import SolidityLint.Check.Semicolon
import SolidityLint.Check.Table
import SolidityLint.Document
import SolidityLint.Finding.Code
import SolidityLint.Finding.KeyedSink
import SolidityLint.Finding.Sink
import SolidityLint.Finding.Summary
import SolidityLint.Line.Comment
import SolidityLint.Line.Context
import SolidityLint.Line.Mapping
import SolidityLint.Line.Vocabulary
import SolidityLint.Naming
import SolidityLint.Pattern.Attempt
import SolidityLint.Pattern.Basic
import SolidityLint.Pattern.CharSet
import SolidityLint.Pattern.Expression
import SolidityLint.Pattern.Marks
import SolidityLint.Pattern.Match
import SolidityLint.Pattern.Part
import SolidityLint.Pattern.Place
import SolidityLint.Pattern.Reader
import SolidityLint.Pattern.Width
import SolidityLint.Schema.Issue
import SolidityLint.Schema.Model
import SolidityLint.Schema.Read
import SolidityLint.Service.Connection
import SolidityLint.Service.Debouncer
import SolidityLint.Service.Diagnostics
import SolidityLint.Service.EventLoop
import SolidityLint.Service.Response
import SolidityLint.Session
import SolidityLint.Settings
import SolidityLint.SyntaxTree
import SolidityLint.Text.Alphanumeric
import SolidityLint.Text.Blank
import SolidityLint.Text.CharacterName
import SolidityLint.Text.CodeRange
import SolidityLint.Text.Digit
import SolidityLint.Text.GroupName
import SolidityLint.Text.Integer
import SolidityLint.Text.LetterCase
import SolidityLint.Text.Name
import SolidityLint.Text.Numeral
import SolidityLint.Text.Printable
import SolidityLint.Text.Quoted
import SolidityLint.Text.Split
import SolidityLint.Text.Utf8
import SolidityLint.Value.Basic
import SolidityLint.Value.Double
import SolidityLint.Value.Json
import SolidityLint.Value.Number
import SolidityLint.Proofs.Reports
import SolidityLint.Proofs.Cap
import SolidityLint.Proofs.Checks
import SolidityLint.Proofs.Switches
import SolidityLint.Proofs.Pattern.Sound
import SolidityLint.Proofs.Pattern.Spans
import SolidityLint.Proofs.Pattern.Complete
import SolidityLint.Proofs.Pattern.Words
import SolidityLint.Proofs.Pattern.MarkOrder
import SolidityLint.Proofs.Pattern.Crossing
import SolidityLint.Proofs.Pattern.Numbering
import SolidityLint.Proofs.Line
import SolidityLint.Proofs.Marks
import SolidityLint.Proofs.Ranges
import SolidityLint.Proofs.Mending
import SolidityLint.Proofs.Comments
import SolidityLint.Proofs.Faults
import SolidityLint.Proofs.Connection
import SolidityLint.Proofs.Freshness
import SolidityLint.Proofs.Schedule
import SolidityLint.Proofs.Publishing
import SolidityLint.Proofs.TreePass
import SolidityLint.Proofs.Order
import SolidityLint.Proofs.Locality
import SolidityLint.Proofs.LineEnds
import SolidityLint.Proofs.Requests
import SolidityLint.Proofs.Shutdown
import SolidityLint.Proofs.Debouncing
import SolidityLint.Proofs.EventLoop
import SolidityLint.Proofs.TaskConnection
import SolidityLint.Proofs.Braces
import SolidityLint.Proofs.Schema
import SolidityLint.Proofs.Highlights
import SolidityLint.Proofs.Responses
import SolidityLint.Proofs.WholeWords
import SolidityLint.Proofs.Propagation
import SolidityLint.Proofs.Bytes
import SolidityLint.Proofs.Walks
import SolidityLint.Proofs.Returns
import SolidityLint.Proofs.TypeRuns
import SolidityLint.Proofs.TypedLines
import SolidityLint.Proofs.Declarations
import SolidityLint.Proofs.DeclaringLine
import SolidityLint.Proofs.Silencing
import SolidityLint.Proofs.KeyedSink
import SolidityLint.Proofs.OncePerLine
import SolidityLint.Proofs.NameKinds
import SolidityLint.Proofs.NamePlaces
import SolidityLint.Proofs.WrongNames
import SolidityLint.Proofs.Mappings
import SolidityLint.Proofs.Hazards
import SolidityLint.Proofs.Payable
import SolidityLint.Proofs.Parentheses
import SolidityLint.Proofs.WrittenWords
import SolidityLint.Proofs.Strict
import SolidityLint.Proofs.CheckFaults
import SolidityLint.Proofs.Summary
import SolidityLint.Proofs.Frame
import SolidityLint.Proofs.RoundTrip
import SolidityLint.Proofs.Numerals
import SolidityLint.Proofs.Environment
