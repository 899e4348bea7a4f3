import Agenda.Broker.Bell
import Agenda.Broker.Error
import Agenda.Broker.Local
import Agenda.Broker.Queue
import Agenda.Broker.Remote
import Agenda.Broker.Server
import Agenda.Calendar.Date
import Agenda.Calendar.Retention
import Agenda.Call
import Agenda.Cleanup
import Agenda.Config
import Agenda.Decimal.Binary
import Agenda.Decimal.Integer
import Agenda.Decimal.Shortest
import Agenda.Dispatch
import Agenda.Duration
import Agenda.Event
import Agenda.Json.Codec
import Agenda.Json.Error
import Agenda.Json.Lexical
import Agenda.Json.Numeral
import Agenda.Json.Record
import Agenda.Json.Skip
import Agenda.LocalService
import Agenda.LogFilter
import Agenda.LogFilter.Directive
import Agenda.LogFilter.Threshold
import Agenda.LogLine
import Agenda.Main
import Agenda.Notice
import Agenda.Notification
import Agenda.Program
import Agenda.Rehearsal.Fault
import Agenda.Rehearsal.Performer
import Agenda.Rehearsal.Play
import Agenda.Rehearsal.Scheduler
import Agenda.Rehearsal.Stage
import Agenda.Rest.CrossOrigin
import Agenda.Rest.Error
import Agenda.Rest.MediaType
import Agenda.Rest.Message
import Agenda.Rest.Operation
import Agenda.Rest.Query
import Agenda.Rest.Route
import Agenda.Sender
import Agenda.Storage.Address
import Agenda.Storage.Collection
import Agenda.Storage.Error
import Agenda.Storage.Memory
import Agenda.Storage.Query
import Agenda.Storage.Relational
import Agenda.Storage.Relational.Table
import Agenda.Text.Alphanumeric
import Agenda.Text.Blank
import Agenda.Text.Combining
import Agenda.Text.Form
import Agenda.Text.Hex
import Agenda.Text.Pattern
import Agenda.Text.Percent
import Agenda.Text.Quoted
import Agenda.Text.Split
import Agenda.Text.Unprintable
import Agenda.Text.Utf8
import Agenda.Ticker
import Agenda.TimeSpan
import Agenda.Timestamp
import Agenda.Url
import Agenda.Url.Host
import Agenda.Url.Ip
import Agenda.Wire
import Agenda.Worker
import Agenda.Proofs.Storage.Collection
import Agenda.Proofs.Storage.Query
import Agenda.Proofs.Storage.Relational
import Agenda.Proofs.Storage.Interchange
import Agenda.Proofs.Calendar.Date
import Agenda.Proofs.Calendar.Retention
import Agenda.Proofs.Cleanup.Coverage
import Agenda.Proofs.Cleanup.Concurrent
import Agenda.Proofs.Scheduler.Run
import Agenda.Proofs.Scheduler.Overrun
import Agenda.Proofs.Scheduler.Reminders
import Agenda.Proofs.Scheduler.Rehearsed
import Agenda.Proofs.Broker.Bell
import Agenda.Proofs.Broker.Ledger
import Agenda.Proofs.Broker.Queue
import Agenda.Proofs.Broker.Traffic
import Agenda.Proofs.Broker.Undecodable
import Agenda.Proofs.Json.Grammar
import Agenda.Proofs.Json.Text
import Agenda.Proofs.Json.Integer
import Agenda.Proofs.Json.Number
import Agenda.Proofs.Json.Skipping
import Agenda.Proofs.Json.Record
import Agenda.Proofs.Json.Members
import Agenda.Proofs.Json.Layout
import Agenda.Proofs.Wire
import Agenda.Proofs.Rest.Refinement
import Agenda.Proofs.Pipeline.Genuine
import Agenda.Proofs.Pipeline.Arrival
import Agenda.Proofs.Pipeline.Reception
import Agenda.Proofs.Scheduler.Outcome
import Agenda.Proofs.Scheduler.Publishing
import Agenda.Proofs.Scheduler.Tiling
import Agenda.Proofs.Scheduler.Batches
import Agenda.Proofs.Scheduler.Discipline
import Agenda.Proofs.Scheduler.Shutdown
import Agenda.Proofs.Scheduler.Transcript
import Agenda.Proofs.Storage.Clients
import Agenda.Proofs.Text.Order
import Agenda.Proofs.Storage.Ranges
import Agenda.Proofs.Json.List
import Agenda.Proofs.Rest.Answers
import Agenda.Proofs.Pipeline.ValidDates
import Agenda.Proofs.Scheduler.Tandem
import Agenda.Proofs.Broker.Protocol
import Agenda.Proofs.Scheduler.Endurance
import Agenda.Proofs.Scheduler.Journal
import Agenda.Proofs.Scheduler.Ending
import Agenda.Proofs.Scheduler.Announcing
import Agenda.Proofs.Cleanup.Removing
import Agenda.Proofs.Pipeline.Legible
import Agenda.Proofs.Rest.Lossless
import Agenda.Proofs.Pipeline.Closing
import Agenda.Proofs.Broker.Acknowledging
import Agenda.Proofs.Broker.Redelivery
import Agenda.Proofs.Pipeline.Tolerance
import Agenda.Proofs.Text.Lossy
import Agenda.Proofs.Text.Percent
import Agenda.Proofs.Rest.Addressing
