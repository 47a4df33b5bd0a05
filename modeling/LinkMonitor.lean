import LinkMonitor.Bytes.BigEndian
import LinkMonitor.Check.Combination
import LinkMonitor.Check.Execute
import LinkMonitor.Check.Record
import LinkMonitor.Command.Line
import LinkMonitor.Command.Options
import LinkMonitor.Command.Program
import LinkMonitor.Config.Daemon
import LinkMonitor.Config.EnabledChecks
import LinkMonitor.Config.SettingValue
import LinkMonitor.Config.Settings
import LinkMonitor.Config.VariableFile
import LinkMonitor.Console.Emoji
import LinkMonitor.Console.Markup
import LinkMonitor.Console.Panel
import LinkMonitor.Console.Print
import LinkMonitor.Console.Wrap
import LinkMonitor.Daemon.Cycle
import LinkMonitor.Daemon.Guard
import LinkMonitor.Daemon.Instance
import LinkMonitor.Daemon.Loop
import LinkMonitor.Daemon.Service
import LinkMonitor.Daemon.Signals
import LinkMonitor.Deflate.Bits
import LinkMonitor.Deflate.Code
import LinkMonitor.Deflate.Deflater
import LinkMonitor.Deflate.Inflate
import LinkMonitor.Deflate.Stored
import LinkMonitor.Digest.Adler32
import LinkMonitor.Digest.Blake2b
import LinkMonitor.Digest.Sha256
import LinkMonitor.Envelope.Basic
import LinkMonitor.Envelope.Layout
import LinkMonitor.Envelope.Version
import LinkMonitor.Files.Path
import LinkMonitor.Files.Tree
import LinkMonitor.History.Outage
import LinkMonitor.History.Severity
import LinkMonitor.History.Summary
import LinkMonitor.Host.Basic
import LinkMonitor.Host.Process
import LinkMonitor.Main
import LinkMonitor.Net.Address
import LinkMonitor.Numeric.Binary64
import LinkMonitor.Numeric.Decimal
import LinkMonitor.Numeric.Literal
import LinkMonitor.Numeric.Number
import LinkMonitor.Numeric.Rounding
import LinkMonitor.Numeric.WholeText
import LinkMonitor.Outside.Disk
import LinkMonitor.Outside.Network
import LinkMonitor.Outside.Processes
import LinkMonitor.Outside.World
import LinkMonitor.Probe.Http
import LinkMonitor.Probe.Ping
import LinkMonitor.Probe.Reply
import LinkMonitor.Proofs.Bytes.BigEndian
import LinkMonitor.Proofs.Daemon.Account
import LinkMonitor.Proofs.Daemon.Cadence
import LinkMonitor.Proofs.Daemon.Cycle
import LinkMonitor.Proofs.Daemon.Effect
import LinkMonitor.Proofs.Daemon.ExitStatus
import LinkMonitor.Proofs.Daemon.FailClosed
import LinkMonitor.Proofs.Daemon.Ledger
import LinkMonitor.Proofs.Daemon.Pass
import LinkMonitor.Proofs.Daemon.Schedule
import LinkMonitor.Proofs.Daemon.Step
import LinkMonitor.Proofs.Daemon.Upgrade
import LinkMonitor.Proofs.Deflate.Deflater
import LinkMonitor.Proofs.Deflate.Feeding
import LinkMonitor.Proofs.Deflate.Stored
import LinkMonitor.Proofs.Digest.Sha256
import LinkMonitor.Proofs.Envelope.Fields
import LinkMonitor.Proofs.Envelope.Grammar
import LinkMonitor.Proofs.Envelope.NormalForm
import LinkMonitor.Proofs.Envelope.RoundTrip
import LinkMonitor.Proofs.Files.Tree
import LinkMonitor.Proofs.History.Partition
import LinkMonitor.Proofs.History.Severity
import LinkMonitor.Proofs.Host.Action
import LinkMonitor.Proofs.Net.CanonicalText
import LinkMonitor.Proofs.Numeric.FloorDiv
import LinkMonitor.Proofs.Results
import LinkMonitor.Proofs.Store.AllOrNothing
import LinkMonitor.Proofs.Store.Load
import LinkMonitor.Proofs.Store.Open
import LinkMonitor.Proofs.Store.Read
import LinkMonitor.Proofs.Store.RoundTrip
import LinkMonitor.Proofs.Store.Save
import LinkMonitor.Report
import LinkMonitor.Store.Basic
import LinkMonitor.Store.Error
import LinkMonitor.Text.Blank
import LinkMonitor.Text.CellWidth
import LinkMonitor.Text.DecimalDigit
import LinkMonitor.Text.Hexadecimal
import LinkMonitor.Text.Lowercase
import LinkMonitor.Text.Printable
import LinkMonitor.Text.Quoted
import LinkMonitor.Time.Calendar
import LinkMonitor.Proofs.History.Cutoff
import LinkMonitor.Proofs.History.InsertionOrder
import LinkMonitor.Proofs.Daemon.Outlook
import LinkMonitor.Proofs.Daemon.Requests
import LinkMonitor.Proofs.History.Stack
import LinkMonitor.Proofs.Deflate.Front
import LinkMonitor.Proofs.Store.Peek
import LinkMonitor.Proofs.Store.Log
import LinkMonitor.Proofs.Numeric.WholeText
import LinkMonitor.Proofs.Daemon.Guard
import LinkMonitor.Proofs.Daemon.Instance
import LinkMonitor.Proofs.Daemon.OneInstance
import LinkMonitor.Proofs.Host.Printing
import LinkMonitor.Proofs.Time.Calendar
import LinkMonitor.Proofs.Check.Execute
import LinkMonitor.Proofs.Console.Markup
import LinkMonitor.Proofs.Daemon.Isolation
import LinkMonitor.Proofs.Envelope.Representable
import LinkMonitor.Proofs.Files.Named
import LinkMonitor.Proofs.Store.Migration
import LinkMonitor.Proofs.Store.Resave
import LinkMonitor.Proofs.Report
import LinkMonitor.Proofs.Command.Reader
import LinkMonitor.Proofs.Command.Options
import LinkMonitor.Proofs.Command.Maintenance
import LinkMonitor.Proofs.Command.Viewing
import LinkMonitor.Proofs.Envelope.Chunks
import LinkMonitor.Proofs.History.Tolerance
import LinkMonitor.Proofs.Daemon.LivePidFile
import LinkMonitor.Proofs.History.Ranking
import LinkMonitor.Proofs.Numeric.Rounding
import LinkMonitor.Proofs.History.Summary
import LinkMonitor.Proofs.Text.Words
import LinkMonitor.Proofs.Text.Lowercase
import LinkMonitor.Proofs.Config.Entry
import LinkMonitor.Proofs.Config.Daemon
import LinkMonitor.Proofs.Config.EnabledChecks
import LinkMonitor.Proofs.Config.Grouping
import LinkMonitor.Proofs.Text.Digits
import LinkMonitor.Proofs.Text.DigitOrder
import LinkMonitor.Proofs.Time.Date
import LinkMonitor.Proofs.Time.Text
import LinkMonitor.Proofs.Time.TextOrder
