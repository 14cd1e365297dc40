import SessionBatch.Address
import SessionBatch.Address.Host
import SessionBatch.Assets
import SessionBatch.Batch
import SessionBatch.Calendar.Date
import SessionBatch.Calendar.Reading
import SessionBatch.Calendar.Timestamp
import SessionBatch.Cancellation
import SessionBatch.CommandLine
import SessionBatch.Decimal.Binary
import SessionBatch.Decimal.Shortest
import SessionBatch.Effect.Fields
import SessionBatch.Effect.Groups
import SessionBatch.Effect.Labels
import SessionBatch.Effect.Languages
import SessionBatch.Effect.Messages
import SessionBatch.Effect.Names
import SessionBatch.Effect.Notices
import SessionBatch.Effect.Payloads
import SessionBatch.Error.Backend
import SessionBatch.Error.Batch
import SessionBatch.Error.Service
import SessionBatch.Error.Store
import SessionBatch.Event
import SessionBatch.Hook
import SessionBatch.Identity
import SessionBatch.Json.Glyph
import SessionBatch.Json.Node
import SessionBatch.Json.Number
import SessionBatch.Json.Scan
import SessionBatch.Json.Value
import SessionBatch.Log
import SessionBatch.Main
import SessionBatch.Migration
import SessionBatch.Program
import SessionBatch.Proofs.Acceptance
import SessionBatch.Proofs.Commitment
import SessionBatch.Proofs.Course
import SessionBatch.Proofs.Dispatch
import SessionBatch.Proofs.Frame
import SessionBatch.Proofs.Grouping
import SessionBatch.Proofs.Hooks
import SessionBatch.Proofs.Membership
import SessionBatch.Proofs.Outcome
import SessionBatch.Proofs.Reduction
import SessionBatch.Proofs.Rollback
import SessionBatch.Proofs.Rule
import SessionBatch.Proofs.Sequence
import SessionBatch.Proofs.Sequential
import SessionBatch.Proofs.Settlement
import SessionBatch.Proofs.Table
import SessionBatch.Proofs.Turns
import SessionBatch.Proofs.Validation
import SessionBatch.Proofs.Writes
import SessionBatch.Reading.Decode
import SessionBatch.Reading.File
import SessionBatch.Reading.Payload
import SessionBatch.Reading.Problem
import SessionBatch.Reading.Sessions
import SessionBatch.Reading.Variant
import SessionBatch.Registry
import SessionBatch.Registry.Standard
import SessionBatch.Rehearsal
import SessionBatch.Rehearsal.Files
import SessionBatch.Retry
import SessionBatch.Schema
import SessionBatch.Service
import SessionBatch.Session
import SessionBatch.Settings
import SessionBatch.Store
import SessionBatch.Store.Write
import SessionBatch.Text.Blank
import SessionBatch.Text.Digit
import SessionBatch.Text.Integer
import SessionBatch.Text.LowerCase
import SessionBatch.Text.Quoted
import SessionBatch.Text.Unseen
import SessionBatch.Unreachable
import SessionBatch.Uuid
import SessionBatch.World
import SessionBatch.Writing
import SessionBatch.Proofs.Integrity
import SessionBatch.Proofs.Delivery
import SessionBatch.Proofs.SendQueue
import SessionBatch.Proofs.Retrial
import SessionBatch.Proofs.Splitting
import SessionBatch.Proofs.Availability
import SessionBatch.Proofs.Reordering
import SessionBatch.Proofs.Completion
import SessionBatch.Proofs.Resubmission
import SessionBatch.Proofs.Deferral
import SessionBatch.Proofs.Steps
import SessionBatch.Proofs.Application
import SessionBatch.Proofs.Digits
import SessionBatch.Proofs.Scanning
import SessionBatch.Proofs.Decoding
import SessionBatch.Proofs.Texts
import SessionBatch.Proofs.RoundTrip
import SessionBatch.Proofs.Accounting
import SessionBatch.Proofs.Concurrency
import SessionBatch.Proofs.Sparing
import SessionBatch.Proofs.Interruption
import SessionBatch.Proofs.Discretion
import SessionBatch.Proofs.Grammar
import SessionBatch.Proofs.Parsing
import SessionBatch.Proofs.Nesting
import SessionBatch.Proofs.Format
import SessionBatch.Proofs.Conformance
import SessionBatch.Proofs.Meaning
import SessionBatch.Proofs.Fields
import SessionBatch.Proofs.Records
import SessionBatch.Proofs.Precedence
import SessionBatch.Proofs.Attribution
import SessionBatch.Proofs.FailedWrites
import SessionBatch.Proofs.Indifference
import SessionBatch.Proofs.Composition
import SessionBatch.Proofs.Containment
import SessionBatch.Proofs.Leftovers
import SessionBatch.Proofs.Changes
import SessionBatch.Proofs.Commutation
import SessionBatch.Proofs.Placement
import SessionBatch.Proofs.Statements
import SessionBatch.Proofs.Misrouting
import SessionBatch.Proofs.Updates
import SessionBatch.Proofs.Retryability
import SessionBatch.Proofs.Assembly
import SessionBatch.Proofs.Rewriting
import SessionBatch.Proofs.QueueNames
import SessionBatch.Proofs.Decisiveness
import SessionBatch.Proofs.Deadlines
import SessionBatch.Proofs.Unread
import SessionBatch.Proofs.Inversion
import SessionBatch.Proofs.AffectedRows
