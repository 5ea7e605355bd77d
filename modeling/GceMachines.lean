import GceMachines.Auth.Assertion
import GceMachines.Auth.Document
import GceMachines.Auth.Token
import GceMachines.Cli.Arguments
import GceMachines.Cli.Display
import GceMachines.Cli.Inputs
import GceMachines.Cli.Run
import GceMachines.Compute.Access
import GceMachines.Compute.Backends
import GceMachines.Compute.InMemory
import GceMachines.Compute.Instance
import GceMachines.Compute.Operation
import GceMachines.Compute.Remote
import GceMachines.Compute.Service
import GceMachines.Crypto.Certificate
import GceMachines.Crypto.Der
import GceMachines.Crypto.Pem
import GceMachines.Crypto.Rsa
import GceMachines.Crypto.Sha256
import GceMachines.Decimal.Binary64
import GceMachines.Decimal.Shortest
import GceMachines.Driver
import GceMachines.Errand
import GceMachines.Failure
import GceMachines.Http.Message
import GceMachines.Http.Status
import GceMachines.Http.Uri
import GceMachines.Http.Wire
import GceMachines.Json.Document
import GceMachines.Json.Fault
import GceMachines.Json.Format
import GceMachines.Json.Numeral
import GceMachines.Json.Parser
import GceMachines.Json.Record
import GceMachines.Json.StringLiteral
import GceMachines.Json.Value
import GceMachines.Kubernetes.Cluster
import GceMachines.Kubernetes.Config
import GceMachines.Kubernetes.Metadata
import GceMachines.Kubernetes.Secret
import GceMachines.Lifecycle.Clock
import GceMachines.Lifecycle.Discovery
import GceMachines.Lifecycle.InstanceBody
import GceMachines.Lifecycle.Machines
import GceMachines.Lifecycle.Measure
import GceMachines.Lifecycle.Paging
import GceMachines.Lifecycle.Plan
import GceMachines.Lifecycle.Refusal
import GceMachines.Lifecycle.Wait
import GceMachines.Machine.Error
import GceMachines.Machine.Id
import GceMachines.Machine.Markers
import GceMachines.Machine.Secret
import GceMachines.Main
import GceMachines.Program
import GceMachines.Settings
import GceMachines.SortedMap
import GceMachines.Spec.Admission
import GceMachines.Spec.Basic
import GceMachines.Spec.Email
import GceMachines.Text.Base64
import GceMachines.Text.Blank
import GceMachines.Text.Calendar
import GceMachines.Text.Digits
import GceMachines.Text.Integer
import GceMachines.Text.Moment
import GceMachines.Text.Quoted
import GceMachines.Text.Split
import GceMachines.Text.Unprintable
import GceMachines.Text.Utf8
import GceMachines.Transcript
import GceMachines.Url.Basic
import GceMachines.Url.Host
import GceMachines.Url.Name.Composite
import GceMachines.Url.Name.Direction
import GceMachines.Url.Name.Fold
import GceMachines.Url.Name.Joiner
import GceMachines.Url.Name.Label
import GceMachines.Url.Name.Table
import GceMachines.Url.Parser
import GceMachines.Url.Path
import GceMachines.Url.Percent
import GceMachines.Url.Punycode
import GceMachines.Volume
import GceMachines.Yaml.Cursor
import GceMachines.Yaml.Json
import GceMachines.Yaml.Node
import GceMachines.Yaml.Plain
import GceMachines.Yaml.Refusal
import GceMachines.Yaml.Scalar
import GceMachines.Yaml.Shape
import GceMachines.Yaml.Token
import GceMachines.Yaml.Value
import GceMachines.Proofs.Machine.Id
import GceMachines.Proofs.Program.Runs
import GceMachines.Proofs.Lifecycle.Questions
import GceMachines.Proofs.Lifecycle.Schedule
import GceMachines.Proofs.Lifecycle.Looks
import GceMachines.Proofs.Lifecycle.Timeout
import GceMachines.Proofs.Lifecycle.Waiting
import GceMachines.Proofs.Lifecycle.Calls
import GceMachines.Proofs.Lifecycle.Walk
import GceMachines.Proofs.Lifecycle.Entering
import GceMachines.Proofs.Lifecycle.Located
import GceMachines.Proofs.Lifecycle.Endings
import GceMachines.Proofs.Lifecycle.Mutations
import GceMachines.Proofs.Lifecycle.Catalogue
import GceMachines.Proofs.Lifecycle.Failures
import GceMachines.Proofs.Lifecycle.Absence
import GceMachines.Proofs.SortedMap
import GceMachines.Proofs.Text.Integer
import GceMachines.Proofs.Text.Substring
import GceMachines.Proofs.Lifecycle.Exhaustion
import GceMachines.Proofs.InMemory.Service
import GceMachines.Proofs.InMemory.Listing
import GceMachines.Proofs.InMemory.Isolation
import GceMachines.Proofs.InMemory.Operations
import GceMachines.Proofs.InMemory.Results
import GceMachines.Proofs.InMemory.Quiet
import GceMachines.Proofs.InMemory.Coherence
import GceMachines.Proofs.Crowd.Basic
import GceMachines.Proofs.Crowd.Journal
import GceMachines.Proofs.Crowd.Ledger
import GceMachines.Proofs.Crowd.Secure
import GceMachines.Proofs.Crowd.Waits
import GceMachines.Proofs.Crowd.Attempts
import GceMachines.Proofs.Crowd.Creations
import GceMachines.Proofs.Crowd.Walks
import GceMachines.Proofs.Crowd.Deletions
import GceMachines.Proofs.Crowd.Races
import GceMachines.Proofs.Lifecycle.Truncation
import GceMachines.Proofs.InMemory.Cancellation
import GceMachines.Proofs.Json.StringLiteral
import GceMachines.Proofs.Json.Numeral
import GceMachines.Proofs.Json.Parser
import GceMachines.Proofs.Json.Format
import GceMachines.Proofs.Json.Record
import GceMachines.Proofs.RoundTrip
import GceMachines.Proofs.Driver
import GceMachines.Proofs.Spec.Admission
import GceMachines.Proofs.InMemory.Handout
import GceMachines.Proofs.Url.Percent
import GceMachines.Proofs.Url.Segments
import GceMachines.Proofs.Url.Append
import GceMachines.Proofs.Url.Reading
import GceMachines.Proofs.Program.Agreement
import GceMachines.Proofs.Lifecycle.Simulation
import GceMachines.Proofs.Lifecycle.Opening
import GceMachines.Proofs.Gate
import GceMachines.Proofs.Remote.Targets
import GceMachines.Proofs.Remote.Recording
import GceMachines.Proofs.Remote.Tokens
import GceMachines.Proofs.Remote.Journeys
import GceMachines.Proofs.InMemory.Telling
import GceMachines.Proofs.Remote.Server
import GceMachines.Proofs.Remote.Transparency
import GceMachines.Proofs.Lifecycle.Rhythm
import GceMachines.Proofs.InMemory.Paging
import GceMachines.Proofs.Lifecycle.Pages
import GceMachines.Proofs.Lifecycle.Alike
import GceMachines.Proofs.Credentials
import GceMachines.Proofs.InMemory.History
import GceMachines.Proofs.InMemory.Countdown
import GceMachines.Proofs.Lifecycle.InstanceBody
import GceMachines.Proofs.Spec.Report
import GceMachines.Proofs.Text.Blank
import GceMachines.Proofs.Spec.Email
import GceMachines.Proofs.Lifecycle.Gaps
import GceMachines.Proofs.Json.Edit
import GceMachines.Proofs.KnownFields
import GceMachines.Proofs.Lifecycle.Marking
import GceMachines.Proofs.SigningKey
import GceMachines.Proofs.Counters
