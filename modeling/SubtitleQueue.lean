import SubtitleQueue.Backend.Kind
import SubtitleQueue.Backend.Meter
import SubtitleQueue.Backend.Mock
import SubtitleQueue.Backend.Stack
import SubtitleQueue.Batch.Chunks
import SubtitleQueue.Batch.Envelope
import SubtitleQueue.Batch.Fallback
import SubtitleQueue.Cancel.Registry
import SubtitleQueue.Cli.Build
import SubtitleQueue.Cli.Complete
import SubtitleQueue.Cli.Complete.Bash
import SubtitleQueue.Cli.Complete.Elvish
import SubtitleQueue.Cli.Complete.Fish
import SubtitleQueue.Cli.Complete.PowerShell
import SubtitleQueue.Cli.Complete.Zsh
import SubtitleQueue.Cli.Help
import SubtitleQueue.Cli.Parse
import SubtitleQueue.Cli.Problem
import SubtitleQueue.Cli.Shell
import SubtitleQueue.Cli.Similar
import SubtitleQueue.Cli.Spec
import SubtitleQueue.Cli.Usage
import SubtitleQueue.Concurrency.Acquire
import SubtitleQueue.Concurrency.Limiter
import SubtitleQueue.Config.Basic
import SubtitleQueue.Config.Check
import SubtitleQueue.Console.Grammar
import SubtitleQueue.Console.Orders
import SubtitleQueue.Console.Program
import SubtitleQueue.Console.Serve
import SubtitleQueue.Console.Setup
import SubtitleQueue.Console.Terminal
import SubtitleQueue.Decimal.Binary
import SubtitleQueue.Digest.Sha256
import SubtitleQueue.Extraction.Source
import SubtitleQueue.Extraction.Tools
import SubtitleQueue.Extraction.Track
import SubtitleQueue.Failure
import SubtitleQueue.Files.Disk
import SubtitleQueue.Files.Path
import SubtitleQueue.Job.Execute
import SubtitleQueue.Job.Load
import SubtitleQueue.Job.Outcome
import SubtitleQueue.Job.Translate
import SubtitleQueue.Json.Render
import SubtitleQueue.Json.Schema
import SubtitleQueue.Json.Stream
import SubtitleQueue.Json.Value
import SubtitleQueue.Language.Catalogue
import SubtitleQueue.Language.Code
import SubtitleQueue.Language.Data
import SubtitleQueue.Log
import SubtitleQueue.Main
import SubtitleQueue.Net.Url
import SubtitleQueue.Process.Schedule
import SubtitleQueue.Process.Task
import SubtitleQueue.Progress.Report
import SubtitleQueue.Progress.Tracker
import SubtitleQueue.Proofs.Backend.Retry
import SubtitleQueue.Proofs.Batch.Chunks
import SubtitleQueue.Proofs.Batch.Culprits
import SubtitleQueue.Proofs.Batch.Envelope
import SubtitleQueue.Proofs.Batch.Fallback
import SubtitleQueue.Proofs.Batch.Markers
import SubtitleQueue.Proofs.Cancel.History
import SubtitleQueue.Proofs.Concurrency.Acquire
import SubtitleQueue.Proofs.Concurrency.Limiter
import SubtitleQueue.Proofs.Files.Components
import SubtitleQueue.Proofs.Job.Context
import SubtitleQueue.Proofs.Process.Segment
import SubtitleQueue.Proofs.Progress.Tracker
import SubtitleQueue.Proofs.Repair.Passes
import SubtitleQueue.Proofs.Repair.Windows
import SubtitleQueue.Proofs.Sql.Change
import SubtitleQueue.Proofs.Sql.Deletes
import SubtitleQueue.Proofs.Sql.Equality
import SubtitleQueue.Proofs.Sql.Frame
import SubtitleQueue.Proofs.Sql.Layout
import SubtitleQueue.Proofs.Sql.Run
import SubtitleQueue.Proofs.Sql.Select
import SubtitleQueue.Proofs.Sql.Statement
import SubtitleQueue.Proofs.Sql.Tables
import SubtitleQueue.Proofs.Sql.Values
import SubtitleQueue.Proofs.Store.Changes
import SubtitleQueue.Proofs.Store.Clashes
import SubtitleQueue.Proofs.Store.Holding
import SubtitleQueue.Proofs.Store.MediaRows
import SubtitleQueue.Proofs.Store.Rows
import SubtitleQueue.Proofs.Store.Steps
import SubtitleQueue.Proofs.Subtitle.Blocks
import SubtitleQueue.Proofs.Subtitle.Lines
import SubtitleQueue.Proofs.Subtitle.OutputPaths
import SubtitleQueue.Proofs.Subtitle.Overlaps
import SubtitleQueue.Proofs.Subtitle.Reader
import SubtitleQueue.Proofs.Subtitle.RoundTrip
import SubtitleQueue.Proofs.Subtitle.Timing
import SubtitleQueue.Proofs.Text.Layout
import SubtitleQueue.Queue.Act
import SubtitleQueue.Queue.Manager
import SubtitleQueue.Queue.MediaState
import SubtitleQueue.Queue.Pool
import SubtitleQueue.Queue.Report
import SubtitleQueue.Repair.Run
import SubtitleQueue.Repair.Window
import SubtitleQueue.Service.Answer
import SubtitleQueue.Service.Backends
import SubtitleQueue.Service.Batches
import SubtitleQueue.Service.Cli
import SubtitleQueue.Service.Configs
import SubtitleQueue.Service.Database
import SubtitleQueue.Service.Errors
import SubtitleQueue.Service.Files
import SubtitleQueue.Service.Job
import SubtitleQueue.Service.Limits
import SubtitleQueue.Service.Media
import SubtitleQueue.Service.Pool
import SubtitleQueue.Service.Queue
import SubtitleQueue.Service.Records
import SubtitleQueue.Service.Reply
import SubtitleQueue.Service.Reporter
import SubtitleQueue.Service.Request
import SubtitleQueue.Service.Settings
import SubtitleQueue.Service.Subtitles
import SubtitleQueue.Service.Tools
import SubtitleQueue.Service.Words
import SubtitleQueue.Settings.Basic
import SubtitleQueue.Settings.Source
import SubtitleQueue.Sql.Connection
import SubtitleQueue.Sql.Database
import SubtitleQueue.Sql.Eval
import SubtitleQueue.Sql.Exec
import SubtitleQueue.Sql.Lexer
import SubtitleQueue.Sql.Parser
import SubtitleQueue.Sql.Parser.Statement
import SubtitleQueue.Sql.Schema
import SubtitleQueue.Sql.Syntax
import SubtitleQueue.Sql.Value
import SubtitleQueue.Store.Access
import SubtitleQueue.Store.File
import SubtitleQueue.Store.Journal
import SubtitleQueue.Store.Media
import SubtitleQueue.Store.Open
import SubtitleQueue.Store.Request
import SubtitleQueue.Store.Schema
import SubtitleQueue.Store.Settings
import SubtitleQueue.Store.Statistics
import SubtitleQueue.Store.Status
import SubtitleQueue.Subtitle.Cue
import SubtitleQueue.Subtitle.Gate
import SubtitleQueue.Subtitle.Naming
import SubtitleQueue.Subtitle.Srt
import SubtitleQueue.Text.Alnum
import SubtitleQueue.Text.Blank
import SubtitleQueue.Text.Case
import SubtitleQueue.Text.Markup
import SubtitleQueue.Text.Number
import SubtitleQueue.Text.Pattern
import SubtitleQueue.Text.Quote
import SubtitleQueue.Text.Utf8
import SubtitleQueue.Time.Duration
import SubtitleQueue.World
