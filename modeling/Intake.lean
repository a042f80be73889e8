import Intake.Calendar.Date
import Intake.Calendar.Eastern
import Intake.Calendar.Instant
import Intake.Calendar.Zone
import Intake.Document.Basic
import Intake.Document.Decoder
import Intake.Document.Part
import Intake.Document.Printer
import Intake.DomainName.Basic
import Intake.DomainName.Label
import Intake.DomainName.LabelCharacter
import Intake.DomainName.Mapping
import Intake.DomainName.Punycode
import Intake.Email.Address
import Intake.Fault
import Intake.Http.Failure
import Intake.Http.Response
import Intake.Http.Route
import Intake.Json.Encoder
import Intake.Json.Problem
import Intake.Json.Reader
import Intake.Json.Tree
import Intake.Logging.Filling
import Intake.Logging.Record
import Intake.Logging.Setup
import Intake.Logging.Template
import Intake.Number.Binary64
import Intake.Number.Decimal
import Intake.Number.Numeral
import Intake.Number.Rounded
import Intake.Path
import Intake.Proofs.Document.Conformance
import Intake.Proofs.Document.Schema
import Intake.Proofs.Validation.Outcome
import Intake.Proofs.Value.Location
import Intake.Settings.Basic
import Intake.Settings.Coercion
import Intake.Settings.Loading
import Intake.Settings.Session
import Intake.Text.Blank
import Intake.Text.Canonical
import Intake.Text.Composed
import Intake.Text.Printable
import Intake.Text.Quoted
import Intake.Text.RunTable
import Intake.Text.Utf8
import Intake.Validation.Basic
import Intake.Validation.Layout
import Intake.Validation.Scalars
import Intake.Validation.Spec
import Intake.Validation.Watched
import Intake.Value.Basic
import Intake.Value.Equality
import Intake.Value.Literal
import Intake.Wire
import Intake.Proofs.Validation.Located
import Intake.Proofs.Value.Keys
import Intake.Proofs.Document.Normal
import Intake.Proofs.Document.Printing
import Intake.Proofs.Json.Quote
import Intake.Proofs.Json.ReadBack
import Intake.Proofs.Json.Plain
import Intake.Proofs.Document.ReadBack
import Intake.Proofs.Document.RoundTrip
import Intake.Proofs.Calendar.Eastern
import Intake.Proofs.Validation.EasternTime
import Intake.Proofs.Validation.Failure
import Intake.Proofs.Http.Bodies
import Intake.Proofs.Http.Response
import Intake.Proofs.Http.Route
import Intake.Proofs.Document.Respelling
import Intake.Proofs.Value.PathText
import Intake.Proofs.Validation.Context
import Intake.Proofs.Settings.Status
import Intake.Proofs.Settings.Session
import Intake.Proofs.Http.Handled
import Intake.Proofs.Document.Places
import Intake.Proofs.Number.Notation
import Intake.Proofs.Validation.NumberText
import Intake.Proofs.Json.Decoded
import Intake.Proofs.Wire.Normal
import Intake.Proofs.Number.Whole
import Intake.Proofs.Validation.WholeNumber
import Intake.Proofs.Value.Collected
import Intake.Proofs.Validation.Idempotent
import Intake.Proofs.Calendar.Date
import Intake.Proofs.Calendar.Instant
import Intake.Proofs.Validation.UtcText
import Intake.Proofs.Validation.Containers
import Intake.Proofs.Validation.Calls
import Intake.Proofs.Validation.MapInverse
import Intake.Proofs.Wire.Spelling
import Intake.Proofs.Http.Logged
import Intake.Proofs.Settings.Sources
import Intake.Proofs.Logging.Setup
import Intake.Proofs.Json.Parse
import Intake.Proofs.Json.OneLine
import Intake.Proofs.Logging.Line
import Intake.Proofs.Path.Indices
