import SpellSessions.Digest.Sha256
import SpellSessions.Json.Reader
import SpellSessions.Json.Writer
import SpellSessions.Locale.Json
import SpellSessions.Locale.Ladder
import SpellSessions.Provider.Descriptor
import SpellSessions.Selection
import SpellSessions.Settings
import SpellSessions.GroupTable
import SpellSessions.Host.Transition
import SpellSessions.Machine
import SpellSessions.Machine.Weight
import SpellSessions.Overview
import SpellSessions.LogWriter
import SpellSessions.Scenario.Step
import SpellSessions.Scenario.Scene
import SpellSessions.Scenario.Play
import SpellSessions.Proofs.Registry
import SpellSessions.Proofs.Selection
import SpellSessions.Proofs.Table
import SpellSessions.Proofs.Transaction
import SpellSessions.Proofs.Transaction.Effect
import SpellSessions.Proofs.Turn
import SpellSessions.Proofs.Journal
import SpellSessions.Proofs.Ledger
import SpellSessions.Proofs.Transaction.Calls
import SpellSessions.Proofs.Teardown
import SpellSessions.Proofs.Release
import SpellSessions.Proofs.Transaction.Requests
import SpellSessions.Proofs.HandOver
import SpellSessions.Proofs.Batch
import SpellSessions.Proofs.Described
import SpellSessions.Proofs.Transaction.Held
import SpellSessions.Proofs.Transaction.Arrival
import SpellSessions.Proofs.Transaction.Origin
import SpellSessions.Proofs.Transaction.Opening
import SpellSessions.Proofs.Transaction.Listed
import SpellSessions.Proofs.Transaction.Iteration
import SpellSessions.Proofs.Account
import SpellSessions.Proofs.Requests
import SpellSessions.Proofs.Stale
import SpellSessions.Proofs.Agenda
import SpellSessions.Proofs.Order
import SpellSessions.Proofs.Told
import SpellSessions.Proofs.Admission
import SpellSessions.Proofs.Connecting
import SpellSessions.Proofs.Serving
import SpellSessions.Proofs.Isolation
import SpellSessions.Proofs.Unwinding
import SpellSessions.Proofs.Outcome
import SpellSessions.Proofs.Failure
import SpellSessions.Proofs.Refresh
import SpellSessions.Proofs.Locale
import SpellSessions.Proofs.Subtypes
import SpellSessions.Proofs.Ranking
import SpellSessions.Proofs.Choice
import SpellSessions.Proofs.Switching
import SpellSessions.Proofs.Queueing
import SpellSessions.Proofs.Fanout
import SpellSessions.Proofs.Registrations
import SpellSessions.Proofs.Discovery
import SpellSessions.Proofs.Text
import SpellSessions.Proofs.Tags
import SpellSessions.Proofs.Json
import SpellSessions.Proofs.Json.Value
import SpellSessions.Proofs.ReadBack
import SpellSessions.Proofs.SubtypeHash
import SpellSessions.Proofs.Documents
import SpellSessions.Proofs.Round
