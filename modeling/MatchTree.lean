import MatchTree.Calendar.Date
import MatchTree.Calendar.Field
import MatchTree.Calendar.Moment
import MatchTree.Calendar.Written
import MatchTree.CommandLine.Basic
import MatchTree.CommandLine.Invocation
import MatchTree.Event
import MatchTree.Expander.Arguments
import MatchTree.Expander.Basic
import MatchTree.Expander.Kind
import MatchTree.Expander.Run
import MatchTree.Failure
import MatchTree.Fixture
import MatchTree.Json.Reader
import MatchTree.Json.Token
import MatchTree.Json.Writer
import MatchTree.Main
import MatchTree.Net.Email
import MatchTree.Net.HostName.Direction
import MatchTree.Net.HostName.Label
import MatchTree.Net.HostName.Mapping
import MatchTree.Net.HostName.Punycode
import MatchTree.Net.Ip
import MatchTree.Net.Url
import MatchTree.Node.Basic
import MatchTree.Node.Document
import MatchTree.Node.Written
import MatchTree.Number.Decimal
import MatchTree.Number.Double
import MatchTree.Number.Scaling
import MatchTree.Number.Shortest
import MatchTree.Proofs.Calendar.Date
import MatchTree.Proofs.Calendar.Forms
import MatchTree.Proofs.Calendar.Timeline
import MatchTree.Proofs.CommandLine.Stages
import MatchTree.Proofs.Expander.Answer
import MatchTree.Proofs.Expander.Block
import MatchTree.Proofs.Expander.Correspondence
import MatchTree.Proofs.Expander.Kind
import MatchTree.Proofs.Expander.Lines
import MatchTree.Proofs.Expander.Recall
import MatchTree.Proofs.Expander.Run
import MatchTree.Proofs.Expander.Signature
import MatchTree.Proofs.Expander.Visit
import MatchTree.Proofs.Fixture
import MatchTree.Proofs.Json.Lexing
import MatchTree.Proofs.Json.Number
import MatchTree.Proofs.Json.Numeral
import MatchTree.Proofs.Json.Reread
import MatchTree.Proofs.Json.RoundTrip
import MatchTree.Proofs.Net.Email
import MatchTree.Proofs.Node.NestedForm
import MatchTree.Proofs.Node.Outline
import MatchTree.Proofs.Node.RoundTrip
import MatchTree.Proofs.Number.Digits
import MatchTree.Proofs.Number.Integral
import MatchTree.Proofs.Number.Nearest
import MatchTree.Proofs.Number.Order
import MatchTree.Proofs.Number.Range
import MatchTree.Proofs.Number.Reread
import MatchTree.Proofs.Number.Rounding
import MatchTree.Proofs.Number.Scaling
import MatchTree.Proofs.Number.Shortest
import MatchTree.Proofs.Number.Spelling
import MatchTree.Proofs.Registry.Account
import MatchTree.Proofs.Registry.Aliases
import MatchTree.Proofs.Registry.Balance
import MatchTree.Proofs.Registry.Change
import MatchTree.Proofs.Registry.History
import MatchTree.Proofs.Registry.Ledger
import MatchTree.Proofs.Registry.Tables
import MatchTree.Proofs.Resolution.Announcement
import MatchTree.Proofs.Resolution.Choice
import MatchTree.Proofs.Resolution.Comparison
import MatchTree.Proofs.Resolution.Dates
import MatchTree.Proofs.Resolution.Kinds
import MatchTree.Proofs.Resolution.Lines
import MatchTree.Proofs.Resolution.Made
import MatchTree.Proofs.Resolution.Needle
import MatchTree.Proofs.Resolution.Patterns
import MatchTree.Proofs.Resolution.Places
import MatchTree.Proofs.Resolution.Refinement
import MatchTree.Proofs.Resolution.Renaming
import MatchTree.Proofs.Resolution.Repetition
import MatchTree.Proofs.Resolution.Schedule
import MatchTree.Proofs.Resolution.Signatures
import MatchTree.Proofs.Resolution.Sites
import MatchTree.Proofs.Resolution.Unwrapping
import MatchTree.Proofs.Structure.Agreement
import MatchTree.Proofs.Structure.Difference
import MatchTree.Proofs.Structure.Pruning
import MatchTree.Proofs.Structure.Wording
import MatchTree.Proofs.Table
import MatchTree.Proofs.Test.RawTexts
import MatchTree.Proofs.Test.Substring
import MatchTree.Proofs.Text.Bytes
import MatchTree.Proofs.Text.Delimited
import MatchTree.Proofs.Text.Lines
import MatchTree.Proofs.Text.Pieces
import MatchTree.Proofs.Text.Quoted
import MatchTree.Proofs.Text.Utf8
import MatchTree.Proofs.Trace.Handles
import MatchTree.Proofs.Trace.Journal
import MatchTree.Proofs.Trace.Lines
import MatchTree.Proofs.Trace.Reporter
import MatchTree.Proofs.Value.Document
import MatchTree.Proofs.Value.Equality
import MatchTree.Proofs.Value.Equivalence
import MatchTree.Proofs.Value.Induction
import MatchTree.Proofs.Value.Numeric
import MatchTree.Proofs.Value.Order
import MatchTree.Proofs.Value.Text
import MatchTree.Proofs.Zone.Abbreviation
import MatchTree.Proofs.Zone.Offset
import MatchTree.Regex.CharSet
import MatchTree.Regex.Expression
import MatchTree.Regex.Named
import MatchTree.Regex.Pattern
import MatchTree.Regex.Reader
import MatchTree.Regex.Search
import MatchTree.Regex.Size
import MatchTree.Registry.Basic
import MatchTree.Registry.Change
import MatchTree.Registry.Config
import MatchTree.Registry.Implementation
import MatchTree.Registry.Observer
import MatchTree.Registry.Resolve
import MatchTree.Registry.Session
import MatchTree.Table
import MatchTree.Test.Basic
import MatchTree.Test.Mismatch
import MatchTree.Test.Structure
import MatchTree.Test.Substring
import MatchTree.Text.Blank
import MatchTree.Text.Category
import MatchTree.Text.Composition
import MatchTree.Text.Folding
import MatchTree.Text.Hidden
import MatchTree.Text.Property
import MatchTree.Text.Quoted
import MatchTree.Text.RangeTable
import MatchTree.Text.Script
import MatchTree.Text.Utf8
import MatchTree.Trace.Entry
import MatchTree.Trace.Journal
import MatchTree.Trace.Reporter
import MatchTree.Value.Basic
import MatchTree.Value.Equality
import MatchTree.Value.Text
import MatchTree.Yaml.Scalar
import MatchTree.Yaml.Shape
import MatchTree.Yaml.Token
import MatchTree.Yaml.Tree
import MatchTree.Zone.Abbreviation
import MatchTree.Zone.Identifier
import MatchTree.Zone.Offset
