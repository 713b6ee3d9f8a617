import FileRouting.Json.Reader
import FileRouting.Main
import FileRouting.Session
import FileRouting.Proofs.DatePattern.Lexeme
import FileRouting.Proofs.DatePattern.Parity
import FileRouting.Proofs.DatePattern.Scan
import FileRouting.Proofs.Expression.Dispatch
import FileRouting.Proofs.Expression.Form
import FileRouting.Proofs.Expression.RoundTrip
import FileRouting.Proofs.Expression.Synonym
import FileRouting.Proofs.Rules.Entries
import FileRouting.Proofs.Rules.Loading
import FileRouting.Proofs.Rules.Violation
import FileRouting.Proofs.Schema.Sorting
import FileRouting.Proofs.Text.Regex
import FileRouting.Proofs.Rules.IssueOrder
import FileRouting.Proofs.Rules.Issues
import FileRouting.Proofs.Command.Written
import FileRouting.Proofs.Command.Validation
import FileRouting.Proofs.Rules.Faultless
import FileRouting.Proofs.Command.Validate
import FileRouting.Proofs.Rules.Redefinition
import FileRouting.Proofs.Command.Repair
import FileRouting.Proofs.Expression.DateEnding
import FileRouting.Proofs.Text.Source
import FileRouting.Proofs.Yaml.Building
import FileRouting.Proofs.Yaml.Cursor
import FileRouting.Proofs.Yaml.Lexing
import FileRouting.Proofs.Yaml.Reading
import FileRouting.Proofs.Yaml.Scalar
import FileRouting.Proofs.Yaml.Stream
import FileRouting.Proofs.Rules.Refusal
import FileRouting.Proofs.Bean.Registration
import FileRouting.Proofs.Command.Compile
import FileRouting.Proofs.Expression.DateText
import FileRouting.Proofs.DatePattern.Quotation
import FileRouting.Proofs.DatePattern.Calendar
import FileRouting.Proofs.DatePattern.Offset
import FileRouting.Proofs.Expression.Reference
import FileRouting.Proofs.Text.Comparison
import FileRouting.Proofs.Time.Order
import FileRouting.Proofs.DatePattern.Cover
import FileRouting.Proofs.DatePattern.Sortable
import FileRouting.Proofs.Rules.HandedOn
import FileRouting.Proofs.Rules.Places
import FileRouting.Proofs.Expression.FileAttributes
import FileRouting.Proofs.Expression.CanonicalPath
