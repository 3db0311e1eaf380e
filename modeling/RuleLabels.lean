import RuleLabels.Classify
import RuleLabels.CommandLine
import RuleLabels.Condition
import RuleLabels.DatabaseUrl
import RuleLabels.DatabaseUrl.Destination
import RuleLabels.DatabaseUrl.Engine
import RuleLabels.Failure
import RuleLabels.Fault
import RuleLabels.Files
import RuleLabels.Files.Disk
import RuleLabels.Files.Location
import RuleLabels.Files.Tables
import RuleLabels.Http
import RuleLabels.Http.Address
import RuleLabels.Http.Body
import RuleLabels.Http.Client
import RuleLabels.Http.Route
import RuleLabels.Http.Target
import RuleLabels.Json.Error
import RuleLabels.Json.Read
import RuleLabels.Json.Write
import RuleLabels.Log
import RuleLabels.Main
import RuleLabels.Management
import RuleLabels.Number.Binary64
import RuleLabels.Number.Decimal
import RuleLabels.Number.Power
import RuleLabels.Number.Reading
import RuleLabels.Number.Shortest
import RuleLabels.Path
import RuleLabels.Processing
import RuleLabels.Proofs.Action
import RuleLabels.Proofs.Checked
import RuleLabels.Proofs.Classify
import RuleLabels.Proofs.Classify.Totality
import RuleLabels.Proofs.Files
import RuleLabels.Proofs.Json.Plain
import RuleLabels.Proofs.Number.Range
import RuleLabels.Proofs.Places
import RuleLabels.Proofs.Rule.Edit
import RuleLabels.Proofs.Rule.Faults
import RuleLabels.Proofs.Rule.Loading
import RuleLabels.Proofs.Rule.RoundTrip
import RuleLabels.Proofs.Session.Agreement
import RuleLabels.Proofs.Session.Backends
import RuleLabels.Proofs.Session.Operations
import RuleLabels.Proofs.Session.Plain
import RuleLabels.Proofs.Session.Twins
import RuleLabels.Proofs.Store.Holding
import RuleLabels.Proofs.Store.Opening
import RuleLabels.Proofs.Store.Rows
import RuleLabels.Proofs.Text.Digits
import RuleLabels.Proofs.Text.Junction
import RuleLabels.Proofs.Text.Whole
import RuleLabels.Proofs.Time.Iso
import RuleLabels.Proofs.Tree.Descent
import RuleLabels.Proofs.Tree.Evaluation
import RuleLabels.Proofs.Tree.Faults
import RuleLabels.Proofs.Tree.Spelling
import RuleLabels.Proofs.Tree.Writing
import RuleLabels.Record
import RuleLabels.Rule
import RuleLabels.Rule.AnyPayload
import RuleLabels.Rule.Edit
import RuleLabels.Rule.File
import RuleLabels.Rule.Given
import RuleLabels.Session
import RuleLabels.Settings
import RuleLabels.Share
import RuleLabels.Statistics
import RuleLabels.Store
import RuleLabels.Store.Database
import RuleLabels.Store.Defaults
import RuleLabels.Store.Folder
import RuleLabels.Text.Base64
import RuleLabels.Text.Blank
import RuleLabels.Text.Case
import RuleLabels.Text.CaseTable
import RuleLabels.Text.Cut
import RuleLabels.Text.Digit
import RuleLabels.Text.Encoding
import RuleLabels.Text.Half
import RuleLabels.Text.Percent
import RuleLabels.Text.PrintableTable
import RuleLabels.Text.Quoted
import RuleLabels.Text.Utf8
import RuleLabels.Text.WordTable
import RuleLabels.Time.Calendar
import RuleLabels.Time.Iso
import RuleLabels.Time.Moment
import RuleLabels.Tree
import RuleLabels.Tree.Evaluate
import RuleLabels.Tree.Read
import RuleLabels.Tree.Write
import RuleLabels.Value
import RuleLabels.Value.Key
import RuleLabels.Value.Rendered
import RuleLabels.Value.Shown
import RuleLabels.World
import RuleLabels.Yaml.Content
import RuleLabels.Yaml.Error
import RuleLabels.Yaml.Kind
import RuleLabels.Yaml.Layout
import RuleLabels.Yaml.Node
import RuleLabels.Yaml.Read
import RuleLabels.Yaml.Scalar
import RuleLabels.Yaml.Source
import RuleLabels.Yaml.Token
import RuleLabels.Proofs.Store.Document
import RuleLabels.Proofs.Store.Failing
import RuleLabels.Proofs.Session.Effects
import RuleLabels.Proofs.Session.Writes
import RuleLabels.Proofs.Session.Failures
import RuleLabels.Proofs.Session.History
import RuleLabels.Proofs.Session.Order
import RuleLabels.Proofs.Files.Staying
import RuleLabels.Proofs.Session.Reopening
import RuleLabels.Proofs.Race.Serial
import RuleLabels.Proofs.Store.Unreadable
import RuleLabels.Proofs.Session.Importing
import RuleLabels.Proofs.Http.Following
import RuleLabels.Proofs.Http.Listing
import RuleLabels.Proofs.Session.Reimporting
import RuleLabels.Proofs.Share
import RuleLabels.Proofs.Statistics.Counts
import RuleLabels.Proofs.Statistics.Newest
import RuleLabels.Proofs.Statistics.Labelled
import RuleLabels.Proofs.Statistics.Instants
import RuleLabels.Proofs.Condition.Rendered
import RuleLabels.Proofs.Session.Identifying
import RuleLabels.Proofs.Session.Updating
import RuleLabels.Proofs.Classify.Mentioned
import RuleLabels.Proofs.DatabaseUrl.Redaction
import RuleLabels.Proofs.Http.Managing
