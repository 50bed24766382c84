import Phrasebook.Bundle
import Phrasebook.Command
import Phrasebook.Command.Evaluation
import Phrasebook.Command.Findings
import Phrasebook.Command.Help
import Phrasebook.Command.Invocation
import Phrasebook.Command.Report
import Phrasebook.Command.Survey
import Phrasebook.Command.Words
import Phrasebook.Coverage
import Phrasebook.Coverage.Table
import Phrasebook.Entries
import Phrasebook.Formatters
import Phrasebook.Function
import Phrasebook.Json
import Phrasebook.Json.Cursor
import Phrasebook.Json.Error
import Phrasebook.Json.Reader
import Phrasebook.Json.Scalar
import Phrasebook.Json.Skip
import Phrasebook.Json.Writer
import Phrasebook.Locale
import Phrasebook.Locale.DateSymbols
import Phrasebook.Locale.Dates
import Phrasebook.Locale.Numbers
import Phrasebook.Locale.Plurals
import Phrasebook.Locale.Source
import Phrasebook.Main
import Phrasebook.Memo
import Phrasebook.NameMap
import Phrasebook.Numeric.Binary64
import Phrasebook.Numeric.Decimal
import Phrasebook.Numeric.Power
import Phrasebook.Numeric.Shortest
import Phrasebook.Pattern
import Phrasebook.Pattern.Decoding
import Phrasebook.Pattern.Equality
import Phrasebook.Pattern.Node
import Phrasebook.Pattern.Reading
import Phrasebook.Pattern.Writing
import Phrasebook.Proofs.Command.Checking
import Phrasebook.Proofs.Command.Surveying
import Phrasebook.Proofs.Coverage.Partition
import Phrasebook.Proofs.Formatters.Answers
import Phrasebook.Proofs.Formatters.Counting
import Phrasebook.Proofs.Formatters.Finite
import Phrasebook.Proofs.Formatters.MarkFree
import Phrasebook.Proofs.Json.Accepted
import Phrasebook.Proofs.Json.RoundTrip
import Phrasebook.Proofs.Json.Yielding
import Phrasebook.Proofs.Numeric.Digits
import Phrasebook.Proofs.Numeric.Fewest
import Phrasebook.Proofs.Numeric.Nearness
import Phrasebook.Proofs.Numeric.Numerals
import Phrasebook.Proofs.Numeric.Order
import Phrasebook.Proofs.Numeric.ReadingBack
import Phrasebook.Proofs.Numeric.Rounding
import Phrasebook.Proofs.Numeric.Significant
import Phrasebook.Proofs.Pattern.Accepted
import Phrasebook.Proofs.Pattern.Decoding
import Phrasebook.Proofs.Pattern.Numbers
import Phrasebook.Proofs.Pattern.Rebuilding
import Phrasebook.Proofs.Pattern.RoundTrip
import Phrasebook.Proofs.Pattern.Substituting
import Phrasebook.Proofs.Pattern.Texts
import Phrasebook.Proofs.Reference.Agreement
import Phrasebook.Proofs.Reference.Foresight
import Phrasebook.Proofs.Reference.Occurrences
import Phrasebook.Proofs.Reference.Suggestions
import Phrasebook.Proofs.Reference.Warnings
import Phrasebook.Proofs.Registration.History
import Phrasebook.Proofs.Registration.Patterns
import Phrasebook.Proofs.Resolution.Additions
import Phrasebook.Proofs.Resolution.Announcing
import Phrasebook.Proofs.Resolution.Balance
import Phrasebook.Proofs.Resolution.Chains
import Phrasebook.Proofs.Resolution.Collecting
import Phrasebook.Proofs.Resolution.Concatenating
import Phrasebook.Proofs.Resolution.Cycles
import Phrasebook.Proofs.Resolution.Descent
import Phrasebook.Proofs.Resolution.Following
import Phrasebook.Proofs.Resolution.Footprint
import Phrasebook.Proofs.Resolution.Frame
import Phrasebook.Proofs.Resolution.Guards
import Phrasebook.Proofs.Resolution.Isolation
import Phrasebook.Proofs.Resolution.Levels
import Phrasebook.Proofs.Resolution.Lockstep
import Phrasebook.Proofs.Resolution.Marks
import Phrasebook.Proofs.Resolution.Matching
import Phrasebook.Proofs.Resolution.Mirroring
import Phrasebook.Proofs.Resolution.Plain
import Phrasebook.Proofs.Resolution.Rebuilding
import Phrasebook.Proofs.Resolution.Selecting
import Phrasebook.Proofs.Resolution.Substitution
import Phrasebook.Proofs.Resolution.Trail
import Phrasebook.Proofs.Resolution.Transforming
import Phrasebook.Proofs.Resource.Accepted
import Phrasebook.Proofs.Resource.Labels
import Phrasebook.Proofs.Resource.Places
import Phrasebook.Proofs.Resource.RoundTrip
import Phrasebook.Proofs.Text.Balance
import Phrasebook.Proofs.Text.Distance
import Phrasebook.Proofs.Value.Fraction
import Phrasebook.Proofs.Value.Grammar
import Phrasebook.Proofs.Value.Merging
import Phrasebook.Proofs.Value.Reading
import Phrasebook.Proofs.Value.Significant
import Phrasebook.Proofs.Value.Written
import Phrasebook.Reference
import Phrasebook.Resolver
import Phrasebook.Resolving
import Phrasebook.Resource
import Phrasebook.Resource.Decoding
import Phrasebook.Resource.Fault
import Phrasebook.Resource.Reading
import Phrasebook.Resource.Writing
import Phrasebook.Scope
import Phrasebook.Suggestion
import Phrasebook.Text.Ahead
import Phrasebook.Text.Blank
import Phrasebook.Text.Bytes
import Phrasebook.Text.Combining
import Phrasebook.Text.Controls
import Phrasebook.Text.Distance
import Phrasebook.Text.Emoji
import Phrasebook.Text.Hex
import Phrasebook.Text.Ignorable
import Phrasebook.Text.Printable
import Phrasebook.Text.Quoted
import Phrasebook.Text.Ranges
import Phrasebook.Text.Unseen
import Phrasebook.Text.Wide
import Phrasebook.Text.Width
import Phrasebook.Value
import Phrasebook.Value.Digits
import Phrasebook.Value.Instant
import Phrasebook.Value.Merging
import Phrasebook.Value.Number
