import OrderDesk.CommandLine.Reading
import OrderDesk.Decimal.Reading
import OrderDesk.DomainName.Name
import OrderDesk.Lookup
import OrderDesk.Main
import OrderDesk.Order
import OrderDesk.Program
import OrderDesk.Remote
import OrderDesk.Settings.File
import OrderDesk.Settings.Configuration
import OrderDesk.Source
import OrderDesk.Toml.Document
import OrderDesk.Toml.Syntax
import OrderDesk.Validation
import OrderDesk.Proofs.Json.Grammar
import OrderDesk.Proofs.Json.Strings
import OrderDesk.Proofs.Json.Numbers
import OrderDesk.Proofs.Json.Skipping
import OrderDesk.Proofs.Json.Readings
import OrderDesk.Proofs.Json.Records
import OrderDesk.Proofs.Json.Gathering
import OrderDesk.Proofs.Decoding
import OrderDesk.Proofs.Json.Layout
import OrderDesk.Proofs.Decimal.Rounding
import OrderDesk.Proofs.Decimal.Shortest
import OrderDesk.Proofs.Decimal.Digits
import OrderDesk.Proofs.Json.Scaling
import OrderDesk.Proofs.Json.AmountText
import OrderDesk.Proofs.RoundTrip
import OrderDesk.Proofs.Remote.Addresses
import OrderDesk.Proofs.Remote.Exchanges
import OrderDesk.Proofs.Json.Lines
import OrderDesk.Proofs.CommandLine.Wishes
import OrderDesk.Proofs.Program.Endings
import OrderDesk.Proofs.Program.Orders
import OrderDesk.Proofs.Program.Lookups
import OrderDesk.Proofs.Lookup.Runs
import OrderDesk.Proofs.Settings.Validity
import OrderDesk.Proofs.Toml.Names
import OrderDesk.Proofs.Settings.Contents
import OrderDesk.Proofs.Settings.Agreement
import OrderDesk.Proofs.Settings.Layers
import OrderDesk.Proofs.Program.Logging
import OrderDesk.Proofs.Program.Canned
import OrderDesk.Proofs.Template.Division
import OrderDesk.Proofs.Template.Seams
import OrderDesk.Proofs.Template.Stability
import OrderDesk.Proofs.Url.Paths
import OrderDesk.Proofs.Remote.Segments
import OrderDesk.Proofs.Settings.Placeholders
import OrderDesk.Proofs.Remote.Replies
import OrderDesk.Proofs.WholeIds
import OrderDesk.Proofs.Remote.Containment
import OrderDesk.Proofs.Json.Unambiguous
import OrderDesk.Proofs.Program.Failures
import OrderDesk.Proofs.Toml.Grammar
import OrderDesk.Proofs.Toml.Numbers
import OrderDesk.Proofs.Toml.Amounts
import OrderDesk.Proofs.Toml.Words
import OrderDesk.Proofs.Toml.Strings
import OrderDesk.Proofs.Toml.Steps
import OrderDesk.Proofs.Toml.Reading
import OrderDesk.Proofs.Toml.Parsing
import OrderDesk.Proofs.Toml.Outline
import OrderDesk.Proofs.Toml.Assembly
import OrderDesk.Proofs.Toml.Planting
import OrderDesk.Proofs.Settings.Skipping
import OrderDesk.Proofs.Settings.Values
import OrderDesk.Proofs.Settings.Notation
import OrderDesk.Proofs.Settings.Styles
import OrderDesk.Proofs.CommandLine.Sayings
import OrderDesk.Proofs.CommandLine.Values
import OrderDesk.Proofs.CommandLine.Placement
import OrderDesk.Proofs.Decimal.Nearest
import OrderDesk.Proofs.Decimal.Search
import OrderDesk.Proofs.Decimal.Ties
import OrderDesk.Proofs.Json.Worth
import OrderDesk.Proofs.Renderings
import OrderDesk.Proofs.Reloading
