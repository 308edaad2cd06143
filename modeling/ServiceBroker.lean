import ServiceBroker.Catalog.Json
import ServiceBroker.Identifier
import ServiceBroker.Lock.Guards
import ServiceBroker.Log.Capture
import ServiceBroker.Log.Setup
import ServiceBroker.Proofs.Broker.Arrivals
import ServiceBroker.Proofs.Broker.BestEffort
import ServiceBroker.Proofs.Broker.Commitments
import ServiceBroker.Proofs.Broker.Course
import ServiceBroker.Proofs.Broker.Footprint
import ServiceBroker.Proofs.Broker.InStep
import ServiceBroker.Proofs.Broker.Openings
import ServiceBroker.Proofs.Broker.Polls
import ServiceBroker.Proofs.Broker.Quiet
import ServiceBroker.Proofs.Broker.Reports
import ServiceBroker.Proofs.Broker.Requests
import ServiceBroker.Proofs.Broker.Transcript
import ServiceBroker.Proofs.Catalog.Defects
import ServiceBroker.Proofs.Catalog.Entries
import ServiceBroker.Proofs.Catalog.Plans
import ServiceBroker.Proofs.Catalog.RoundTrip
import ServiceBroker.Proofs.Catalog.Usability
import ServiceBroker.Proofs.Deadlines.Lapse
import ServiceBroker.Proofs.Deadlines.Requests
import ServiceBroker.Proofs.Json.Extent
import ServiceBroker.Proofs.Json.Records
import ServiceBroker.Proofs.Json.Rewording
import ServiceBroker.Proofs.Json.RoundTrip
import ServiceBroker.Proofs.Json.Spelling
import ServiceBroker.Proofs.Json.Values
import ServiceBroker.Proofs.Lifecycle.Acceptance
import ServiceBroker.Proofs.Lifecycle.Answers
import ServiceBroker.Proofs.Lifecycle.Deletion
import ServiceBroker.Proofs.Lifecycle.Deploy
import ServiceBroker.Proofs.Lifecycle.Ending
import ServiceBroker.Proofs.Lifecycle.Finality
import ServiceBroker.Proofs.Lifecycle.Histories
import ServiceBroker.Proofs.Lifecycle.Knowledge
import ServiceBroker.Proofs.Lifecycle.Missing
import ServiceBroker.Proofs.Lifecycle.OnlyErrand
import ServiceBroker.Proofs.Lifecycle.Overlap
import ServiceBroker.Proofs.Lifecycle.Pollable
import ServiceBroker.Proofs.Lifecycle.Returns
import ServiceBroker.Proofs.Lifecycle.Tracks
import ServiceBroker.Proofs.Lifecycle.Turns
import ServiceBroker.Proofs.Locks.Discipline
import ServiceBroker.Proofs.Locks.Exclusion
import ServiceBroker.Proofs.Locks.Guards
import ServiceBroker.Proofs.Locks.Registry
import ServiceBroker.Proofs.Locks.Requests
import ServiceBroker.Proofs.Locks.Stages
import ServiceBroker.Proofs.Log.Lines
import ServiceBroker.Proofs.Log.Requests
import ServiceBroker.Proofs.Memory.Account
import ServiceBroker.Proofs.Memory.Calm
import ServiceBroker.Proofs.Memory.Growth
import ServiceBroker.Proofs.Memory.Isolation
import ServiceBroker.Proofs.Memory.Likeness
import ServiceBroker.Proofs.Memory.Numbering
import ServiceBroker.Proofs.Memory.Reachable
import ServiceBroker.Proofs.Operation.Extent
import ServiceBroker.Proofs.Operation.RoundTrip
import ServiceBroker.Proofs.Operation.Spelling
import ServiceBroker.Proofs.Operation.TaskNumbers
import ServiceBroker.Proofs.Process.Ledger
import ServiceBroker.Proofs.Process.Opening
import ServiceBroker.Proofs.Process.Record
import ServiceBroker.Proofs.Process.Run
import ServiceBroker.Proofs.Process.Segments
import ServiceBroker.Proofs.Quota.Admission
import ServiceBroker.Proofs.Quota.Economy
import ServiceBroker.Proofs.Quota.Fleet
import ServiceBroker.Proofs.Quota.Respected
import ServiceBroker.Proofs.Quota.Room
import ServiceBroker.Proofs.Quota.Switches
import ServiceBroker.Proofs.Quota.Tighter
import ServiceBroker.Proofs.Quota.Usage
import ServiceBroker.Proofs.Quota.Words
import ServiceBroker.Proofs.Request.RoundTrip
import ServiceBroker.Proofs.Secrecy.Redaction
import ServiceBroker.Proofs.Secrecy.Requests
import ServiceBroker.Proofs.Settings.Layers
import ServiceBroker.Proofs.Settings.Overrides
import ServiceBroker.Proofs.Settings.Reading
import ServiceBroker.Proofs.Settings.Values
import ServiceBroker.Proofs.Settings.Written
import ServiceBroker.Request.Json
import ServiceBroker.Scenario.Run
import ServiceBroker.Settings.Load
