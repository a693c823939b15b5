import QueryBind.Text.Blank
import QueryBind.Text.Lowercase
import QueryBind.Text.Resemblance
import QueryBind.Text.Quoted
import QueryBind.Text.Cluster
import QueryBind.Text.Erasure
import QueryBind.Text.Pieces
import QueryBind.Files.Tree
import QueryBind.Number.Numeral
import QueryBind.Number.Shortest
import QueryBind.Calendar.Written
import QueryBind.Sql.Scan
import QueryBind.Sql.Statement
import QueryBind.Sql.Sentence
import QueryBind.Settings
import QueryBind.Schema.Catalog
import QueryBind.Binding.Select
import QueryBind.Schema.Document
import QueryBind.SettingsDocument
import QueryBind.Main
import QueryBind.Proofs.Binding.Validity
import QueryBind.Proofs.Binding.Naming
import QueryBind.Proofs.Schema.RoundTrip
import QueryBind.Proofs.Session.History
import QueryBind.Proofs.Session.Repetition
import QueryBind.Proofs.Session.Script
import QueryBind.Proofs.Shell.Replay
import QueryBind.Proofs.Binding.Visiting
import QueryBind.Proofs.Binding.Equality
import QueryBind.Proofs.Shell.Reporting
import QueryBind.Proofs.Binding.Agreement
import QueryBind.Proofs.Binding.Wildcards
import QueryBind.Proofs.Sql.Scanning
import QueryBind.Proofs.Binding.Rearranging
import QueryBind.Proofs.Binding.Calls
import QueryBind.Proofs.Value.Dates
import QueryBind.Proofs.Value.Numerals
import QueryBind.Proofs.Sql.WrittenOut
import QueryBind.Proofs.Sql.Positions
import QueryBind.Proofs.Binding.Stars
import QueryBind.Proofs.Binding.Rebinding
import QueryBind.Proofs.Value.Widening
import QueryBind.Proofs.Binding.Quotes
import QueryBind.Proofs.Schema.Columns
import QueryBind.Proofs.Sql.Following
import QueryBind.Proofs.Sql.Gaps
import QueryBind.Proofs.Text.Nearest
import QueryBind.Proofs.Binding.Boxes
