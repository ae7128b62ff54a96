import BenchCompare.Chart.Save
import BenchCompare.Main
import BenchCompare.Proofs.Text.Cutting
import BenchCompare.Proofs.Numeral.Digits
import BenchCompare.Proofs.Report.Kind
import BenchCompare.Proofs.Report.Progress
import BenchCompare.Proofs.Report.Faults
import BenchCompare.Proofs.Report.Meaning
import BenchCompare.Proofs.Report.Layout
import BenchCompare.Proofs.Report.ReadBack
import BenchCompare.Proofs.Json.Numbers
import BenchCompare.Proofs.Json.RoundTrip
import BenchCompare.Proofs.Json.Records
import BenchCompare.Proofs.Timestamp.ReadBack
import BenchCompare.Proofs.Run.Json
import BenchCompare.Proofs.Input.Reload
import BenchCompare.Proofs.Binary64.Order
import BenchCompare.Proofs.Ranking.Order
import BenchCompare.Proofs.Report.Interleaving
import BenchCompare.Proofs.Binary64.Rounding
import BenchCompare.Proofs.Run.Numbers
import BenchCompare.Proofs.Report.Numbers
import BenchCompare.Proofs.Input.Labels
import BenchCompare.Proofs.Input.Validity
import BenchCompare.Proofs.Binary64.Monotone
import BenchCompare.Proofs.Ranking.Relative
import BenchCompare.Proofs.Input.Concatenation
import BenchCompare.Proofs.Json.Skip
import BenchCompare.Proofs.Settings.Overrides
import BenchCompare.Proofs.Settings.Members
import BenchCompare.Proofs.Settings.Keys
import BenchCompare.Proofs.Settings.Precedence
import BenchCompare.Proofs.Yaml.Quoted
import BenchCompare.Proofs.Yaml.Plain
import BenchCompare.Proofs.Yaml.Block
import BenchCompare.Proofs.Yaml.Scanning
import BenchCompare.Proofs.Yaml.ReadBack
import BenchCompare.Proofs.Yaml.Numbers
import BenchCompare.Proofs.Settings.Json
import BenchCompare.Proofs.Settings.ReadBack
import BenchCompare.Proofs.Output.Csv
import BenchCompare.Proofs.Output.Markdown
import BenchCompare.Proofs.Json.Edits
import BenchCompare.Proofs.Input.Edits
import BenchCompare.Proofs.Chart.Refusals
import BenchCompare.Proofs.Settings.Outcomes
import BenchCompare.Proofs.Input.ReadBack
import BenchCompare.Proofs.Binary64.Decimal
import BenchCompare.Proofs.Report.Amount
import BenchCompare.Proofs.Binary64.Error
import BenchCompare.Proofs.Report.Conversion
import BenchCompare.Proofs.Input.Warnings
import BenchCompare.Proofs.Output.Table
import BenchCompare.Proofs.Report.Margins
import BenchCompare.Proofs.Chart.Axis
import BenchCompare.Proofs.Duration.Milliseconds
import BenchCompare.Proofs.Chart.FiniteAxis
