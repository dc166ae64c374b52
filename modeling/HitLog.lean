import HitLog.Benchmark
import HitLog.CommandLine
import HitLog.CommandLine.Flags
import HitLog.Config
import HitLog.Config.Draft
import HitLog.Config.Valid
import HitLog.Counting
import HitLog.Duration
import HitLog.ErrorKind
import HitLog.Fault
import HitLog.FileSystem
import HitLog.Flush
import HitLog.Journal
import HitLog.Journal.Console
import HitLog.Log
import HitLog.Log.File
import HitLog.Main
import HitLog.Memory
import HitLog.Metric
import HitLog.Numeral
import HitLog.Output
import HitLog.Proofs.Benchmark
import HitLog.Proofs.Binary64
import HitLog.Proofs.Blank
import HitLog.Proofs.Canonical
import HitLog.Proofs.ClosedForm
import HitLog.Proofs.Codec
import HitLog.Proofs.Command
import HitLog.Proofs.Config
import HitLog.Proofs.Counting
import HitLog.Proofs.Defaults
import HitLog.Proofs.Duration
import HitLog.Proofs.ExactlyOnce
import HitLog.Proofs.FileSystem
import HitLog.Proofs.Grammar
import HitLog.Proofs.Hits
import HitLog.Proofs.Independence
import HitLog.Proofs.Interleaving
import HitLog.Proofs.Lookup
import HitLog.Proofs.Memory
import HitLog.Proofs.Merge
import HitLog.Proofs.Monotone
import HitLog.Proofs.Numeral
import HitLog.Proofs.Operations
import HitLog.Proofs.Outcome
import HitLog.Proofs.Output
import HitLog.Proofs.Padding
import HitLog.Proofs.Reading
import HitLog.Proofs.Regrouping
import HitLog.Proofs.Resolution
import HitLog.Proofs.Retry
import HitLog.Proofs.Roster
import HitLog.Proofs.Sample
import HitLog.Proofs.Schedule
import HitLog.Proofs.Sections
import HitLog.Proofs.Series
import HitLog.Proofs.Session
import HitLog.Proofs.Shortage
import HitLog.Proofs.Snapshot
import HitLog.Proofs.Text
import HitLog.Proofs.Totals
import HitLog.Proofs.Tracefile
import HitLog.Proofs.Violation
import HitLog.Record
import HitLog.Record.Merge
import HitLog.Record.Parser
import HitLog.Remote.Address
import HitLog.Remote.Exporter
import HitLog.Remote.Host
import HitLog.Remote.Network
import HitLog.Remote.Resolve
import HitLog.Remote.Url
import HitLog.Run
import HitLog.Session
import HitLog.Session.Action
import HitLog.Session.Roster
import HitLog.Table
import HitLog.Text
import HitLog.Text.Blank
import HitLog.Text.Printable
import HitLog.Text.Quoted
import HitLog.Text.Utf8
import HitLog.Toml.Document
import HitLog.Toml.Key
import HitLog.Toml.Moment
import HitLog.Toml.Node
import HitLog.Toml.Number
import HitLog.Toml.Quoted
import HitLog.Toml.Token
import HitLog.Tracefile
import HitLog.Usage
import HitLog.World
