import TrustGate.Certificate.AltName
import TrustGate.Certificate.Basic
import TrustGate.Certificate.Bundle
import TrustGate.Certificate.Key
import TrustGate.Certificate.Name
import TrustGate.Config.Basic
import TrustGate.Config.Load
import TrustGate.Config.Logging
import TrustGate.Connection.Connect
import TrustGate.Connection.Request
import TrustGate.Connection.Upgrade
import TrustGate.Decimal.Binary64
import TrustGate.Decimal.Layout
import TrustGate.Decimal.Reader
import TrustGate.Decimal.Rounded
import TrustGate.Decimal.Shortest
import TrustGate.Der.Element
import TrustGate.Der.Primitive
import TrustGate.Encoding.Base64
import TrustGate.Encoding.Pem
import TrustGate.Encoding.Utf8
import TrustGate.Factory
import TrustGate.Failure.Basic
import TrustGate.Failure.Kind
import TrustGate.Files
import TrustGate.Json.Basic
import TrustGate.Json.Reader
import TrustGate.Logging.Journal
import TrustGate.Logging.Record
import TrustGate.Metrics.Counters
import TrustGate.Net.Address
import TrustGate.Net.Subject
import TrustGate.Platform.Call
import TrustGate.Platform.World
import TrustGate.Probe.Arguments
import TrustGate.Probe.Run
import TrustGate.Probe.Snapshot
import TrustGate.Probe.Usage
import TrustGate.Rehearsal.Script
import TrustGate.Rehearsal.Stage
import TrustGate.Rehearsal.Tree
import TrustGate.Text.Cased
import TrustGate.Text.Class
import TrustGate.Text.LetterCase
import TrustGate.Text.Printable
import TrustGate.Text.Template
import TrustGate.Time.Calendar
import TrustGate.Tls.Context
import TrustGate.Tls.Protocol
import TrustGate.Tls.Session
import TrustGate.Toml.Document
import TrustGate.Toml.Lexical
import TrustGate.Trust.ChainValidator
import TrustGate.Trust.Check
import TrustGate.Trust.Material
import TrustGate.Trust.Observer
import TrustGate.Trust.Provider
import TrustGate.Value.Basic
import TrustGate.Value.Shown
import TrustGate.Main
import TrustGate.Proofs.Footprint
import TrustGate.Proofs.Tls.Handshake
import TrustGate.Proofs.Tls.Gate
import TrustGate.Proofs.Tls.Rejection
import TrustGate.Proofs.Tls.Rulings
import TrustGate.Proofs.Tls.Decisions
import TrustGate.Proofs.Connection.Steps
import TrustGate.Proofs.Connection.Ownership
import TrustGate.Proofs.Connection.Plain
import TrustGate.Proofs.Connection.Cause
import TrustGate.Proofs.Coupling
import TrustGate.Proofs.Trust.Observers
import TrustGate.Proofs.Tls.Observed
import TrustGate.Proofs.Tls.Pass
import TrustGate.Proofs.Tls.Failing
import TrustGate.Proofs.Connection.Attempts
import TrustGate.Proofs.Connection.Deadline
import TrustGate.Proofs.Tls.Steady
import TrustGate.Proofs.Connection.InStep
import TrustGate.Proofs.Connection.Agreement
import TrustGate.Proofs.Certificate.Faults
import TrustGate.Proofs.Trust.Judgement
import TrustGate.Proofs.Trust.Decision
import TrustGate.Proofs.Trust.Loading
import TrustGate.Proofs.Connection.Tally
import TrustGate.Proofs.Tls.Installed
import TrustGate.Proofs.Connection.Upgraded
import TrustGate.Proofs.Connection.Arguments
import TrustGate.Proofs.Decimal.Order
import TrustGate.Proofs.Config.Usable
import TrustGate.Proofs.Config.Refused
import TrustGate.Proofs.Connection.Blame
import TrustGate.Proofs.Probe.SetUp
import TrustGate.Proofs.Probe.Status
import TrustGate.Proofs.Net.Labels
import TrustGate.Proofs.Trust.AnyHost
import TrustGate.Proofs.Trust.Sources
import TrustGate.Proofs.Connection.Requests
import TrustGate.Proofs.Config.Fields
import TrustGate.Proofs.Config.Accepted
import TrustGate.Proofs.Decimal.Whole
import TrustGate.Proofs.Value.Mapping
import TrustGate.Proofs.Config.Reencoded
import TrustGate.Proofs.Config.Loaded
import TrustGate.Proofs.Probe.Settings
import TrustGate.Proofs.Toml.Tables
import TrustGate.Proofs.Value.LastWins
import TrustGate.Proofs.Decimal.Nearest
import TrustGate.Proofs.Decimal.Shortest
import TrustGate.Proofs.Json.Number
import TrustGate.Proofs.Json.RoundTrip
import TrustGate.Proofs.Logging.Image
import TrustGate.Proofs.Logging.Line
