import InvocationClient.Text.Class
import InvocationClient.Text.Case
import InvocationClient.Text.Encoding
import InvocationClient.Text.Decoding
import InvocationClient.Text.Composition
import InvocationClient.Text.Punycode
import InvocationClient.Number.Decimal
import InvocationClient.Number.Integer
import InvocationClient.Association
import InvocationClient.Json.Basic
import InvocationClient.Json.Document
import InvocationClient.Json.Printer
import InvocationClient.Domain.Name
import InvocationClient.Url.Site
import InvocationClient.Endpoint
import InvocationClient.Invocation.Basic
import InvocationClient.Invocation.Metadata
import InvocationClient.Report
import InvocationClient.Log.Level
import InvocationClient.Log.Logger
import InvocationClient.Exchange
import InvocationClient.Transport
import InvocationClient.Client.Basic
import InvocationClient.Client.Operations
import InvocationClient.Client.Session
import InvocationClient.Handler
import InvocationClient.Loop
import InvocationClient.Main
import InvocationClient.Proofs.Client.Settlement
import InvocationClient.Proofs.Loop.Protocol
import InvocationClient.Proofs.Invocation.Deadline
import InvocationClient.Proofs.Invocation.Metadata
import InvocationClient.Proofs.Client.Polling
import InvocationClient.Proofs.Client.PollOutcome
import InvocationClient.Proofs.Client.Requests
import InvocationClient.Proofs.Client.Plan
import InvocationClient.Proofs.Client.Calls
import InvocationClient.Proofs.Log.Emission
import InvocationClient.Proofs.Client.Logging
import InvocationClient.Proofs.Transport.Headers
import InvocationClient.Proofs.Transport.Confidential
import InvocationClient.Proofs.Client.Confidential
import InvocationClient.Proofs.Text.Percent
import InvocationClient.Proofs.Url.Components
import InvocationClient.Proofs.Url.Destination
import InvocationClient.Proofs.Client.Destination
import InvocationClient.Proofs.Client.Path
import InvocationClient.Proofs.Client.ReportPath
import InvocationClient.Proofs.Transport.Conveyance
import InvocationClient.Proofs.Client.Agreement
import InvocationClient.Proofs.Client.Emissions
import InvocationClient.Proofs.Client.Messages
import InvocationClient.Proofs.Loop.Release
import InvocationClient.Proofs.Client.Alarms
import InvocationClient.Proofs.Invocation.Extraction
import InvocationClient.Proofs.Text.LowerCase
import InvocationClient.Proofs.Invocation.Recognition
import InvocationClient.Proofs.Endpoint.Grammar
import InvocationClient.Proofs.Endpoint.Rejection
import InvocationClient.Proofs.Endpoint.Acceptance
import InvocationClient.Proofs.Endpoint.Canonical
import InvocationClient.Proofs.Text.Blank
import InvocationClient.Proofs.Log.Descent
import InvocationClient.Proofs.Log.Decisions
import InvocationClient.Proofs.Log.DefaultLogger
import InvocationClient.Proofs.Log.Delivery
import InvocationClient.Proofs.Client.ReportOutcome
import InvocationClient.Proofs.Transport.Faults
import InvocationClient.Proofs.Client.FaultOutcome
import InvocationClient.Proofs.Client.ReportHeaders
import InvocationClient.Proofs.Json.Members
import InvocationClient.Proofs.Json.Grammar
import InvocationClient.Proofs.Json.Strings
import InvocationClient.Proofs.Json.Numerals
import InvocationClient.Proofs.Json.RoundTrip
import InvocationClient.Proofs.Json.Steps
import InvocationClient.Proofs.Json.Reading
import InvocationClient.Proofs.Json.Sound
import InvocationClient.Proofs.Json.Documents
import InvocationClient.Proofs.Report.Document
import InvocationClient.Proofs.Report.Repetition
import InvocationClient.Proofs.Invocation.Remaining
import InvocationClient.Proofs.Client.Construction
import InvocationClient.Proofs.Log.Setting
import InvocationClient.Proofs.Handler.Echo
