import Scenario.Descriptor.Printer
import Scenario.Descriptor.Reader
import Scenario.Document
import Scenario.Endpoint.Declaration
import Scenario.Suite
import Scenario.Proofs.Json.Fields
import Scenario.Proofs.Json.Document
import Scenario.Proofs.Json.Text
import Scenario.Proofs.Json.Record
import Scenario.Proofs.Resolve.Plan
import Scenario.Proofs.Descriptor.RoundTrip
import Scenario.Proofs.Session.Script
import Scenario.Proofs.Session.Run
import Scenario.Proofs.Session.Pool
import Scenario.Proofs.Session.History
import Scenario.Proofs.Session.Strand
import Scenario.Proofs.Session.Part
import Scenario.Proofs.Session.Weave
import Scenario.Proofs.Session.Ownership
import Scenario.Proofs.Session.Report
import Scenario.Proofs.Session.Alike
import Scenario.Proofs.Session.Tandem
import Scenario.Proofs.Session.Timers
import Scenario.Proofs.Session.Apart
import Scenario.Proofs.Session.Family
import Scenario.Proofs.Correlation.Act
import Scenario.Proofs.Correlation.Call
import Scenario.Proofs.Correlation.ExactlyOnce
import Scenario.Proofs.Correlation.Retention
import Scenario.Proofs.Correlation.Prompt
import Scenario.Proofs.Correlation.Waiting
import Scenario.Proofs.Correlation.LifeCycle
import Scenario.Proofs.Correlation.Polling
import Scenario.Proofs.Endpoint.Keys
import Scenario.Proofs.Endpoint.Exchange
import Scenario.Proofs.Endpoint.Script
import Scenario.Proofs.Endpoint.Talk
import Scenario.Proofs.Endpoint.CrossTalk
import Scenario.Proofs.Action.Isolation
import Scenario.Proofs.Action.Bare
import Scenario.Proofs.Action.Quiet
import Scenario.Proofs.Action.Log
import Scenario.Proofs.Action.Renaming
import Scenario.Proofs.Action.Independence
import Scenario.Proofs.Action.Machine
import Scenario.Proofs.Action.Halting
import Scenario.Proofs.Action.Acyclic
import Scenario.Proofs.Action.Scheduled
import Scenario.Proofs.Suite.Events
import Scenario.Proofs.Suite.Provenance
import Scenario.Proofs.Suite.Termination
import Scenario.Proofs.Resolve.Arguments
import Scenario.Proofs.Resolve.Calls
import Scenario.Proofs.Correlation.Renewal
import Scenario.Proofs.Endpoint.FailedSend
import Scenario.Proofs.Resolve.Settled
import Scenario.Proofs.Session.Sequel
import Scenario.Proofs.Action.Binding
import Scenario.Proofs.Action.Loops
import Scenario.Proofs.Text.Words
import Scenario.Proofs.Condition.Operators
import Scenario.Proofs.Action.Comparisons
import Scenario.Proofs.Session.Gathering
import Scenario.Proofs.Session.AnyOrder
import Scenario.Proofs.Action.Aggregation
import Scenario.Proofs.Validation.Resolved
import Scenario.Proofs.Validation.Strictness
import Scenario.Proofs.Resolve.Leaves
import Scenario.Proofs.Resolve.Likeness
import Scenario.Proofs.Descriptor.Building
import Scenario.Proofs.Variables.Histories
import Scenario.Proofs.Text.Whole
import Scenario.Proofs.Settings.Overrides
import Scenario.Proofs.Session.Trace
import Scenario.Proofs.Session.Unreported
import Scenario.Proofs.Action.Receipts
import Scenario.Proofs.Action.Congruence
import Scenario.Proofs.Action.Grouping
import Scenario.Proofs.Resolve.Functions
import Scenario.Proofs.Failure.Views
import Scenario.Proofs.Resolve.Totality
