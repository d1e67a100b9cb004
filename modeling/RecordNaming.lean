import RecordNaming.Decimal.Numeral
import RecordNaming.Json.Reader
import RecordNaming.Json.Printer
import RecordNaming.Text.Casing
import RecordNaming.Record.Projection
import RecordNaming.Condition.Evaluation
import RecordNaming.Configuration.References
import RecordNaming.Configuration.Validity
import RecordNaming.Currency
import RecordNaming.Document.Configuration
import RecordNaming.Document.Writing
import RecordNaming.Main
import RecordNaming.RuleSet
import RecordNaming.Text.Cut
import RecordNaming.Text.Quoted
import RecordNaming.Money
import RecordNaming.Instant.Reading
import RecordNaming.Instant.Pattern
import RecordNaming.Instant.Cursor
import RecordNaming.Proofs.Absence
import RecordNaming.Proofs.Provisioning
import RecordNaming.Proofs.Outcome
import RecordNaming.Proofs.Validity.FirstDefect
import RecordNaming.Proofs.Json.Written
import RecordNaming.Proofs.Document.RoundTrip
import RecordNaming.Proofs.SymbolCache
import RecordNaming.Proofs.Document.Agreement
import RecordNaming.Proofs.Supplier
import RecordNaming.Proofs.Document.Lists
import RecordNaming.Proofs.Document.Named
import RecordNaming.Proofs.FrontEnds
import RecordNaming.Proofs.Decimal.Value
import RecordNaming.Proofs.Decimal.Exact
import RecordNaming.Proofs.Numeral.Layout
import RecordNaming.Proofs.Numeral.Custom
import RecordNaming.Proofs.Numeral.Specifiers
import RecordNaming.Proofs.Decimal.Reading
import RecordNaming.Proofs.Numeral.Standard
import RecordNaming.Proofs.Numeral.Magnitude
import RecordNaming.Proofs.Numeral.Vanishing
import RecordNaming.Proofs.Numeral.Quoting
import RecordNaming.Proofs.Instant.Conditions
import RecordNaming.Proofs.Condition.Duality
import RecordNaming.Proofs.Condition.Emptiness
import RecordNaming.Proofs.Money.Amount
import RecordNaming.Proofs.References
import RecordNaming.Proofs.Condition.Casing
import RecordNaming.Proofs.Condition.Numbers
import RecordNaming.Proofs.Projection
import RecordNaming.Proofs.Instant.Offset
import RecordNaming.Proofs.Literals
import RecordNaming.Proofs.Instant.Cursor
