import Casework.Catalog.FileName
import Casework.Catalog.Record
import Casework.Cli.Arguments
import Casework.Cli.Command
import Casework.Cli.Dotenv
import Casework.Cli.Machine
import Casework.Cli.Operator
import Casework.Cli.Program
import Casework.Config.Environment
import Casework.Config.Server
import Casework.Config.Tools
import Casework.Config.Worker
import Casework.Decimal.Shortest
import Casework.Dispatch.Cluster
import Casework.Dispatch.Connection
import Casework.Dispatch.Dispatcher
import Casework.Dispatch.Session
import Casework.Dispatch.Timer
import Casework.Error
import Casework.Hook.Glob
import Casework.Hook.Runner
import Casework.Host.Basic
import Casework.Host.FileTree
import Casework.Http.ApiError
import Casework.Http.Cluster
import Casework.Http.Message
import Casework.Http.Route
import Casework.Http.Router
import Casework.Job.Basic
import Casework.Job.Message
import Casework.Job.Status
import Casework.Job.Stream
import Casework.Json.Basic
import Casework.Json.Codec
import Casework.Json.Reader
import Casework.Main
import Casework.Module.Basic
import Casework.Module.Name
import Casework.Module.Tool
import Casework.Net.Address
import Casework.Net.Uri
import Casework.Net.Url
import Casework.Proofs.Catalog.Extension
import Casework.Proofs.Catalog.FileName
import Casework.Proofs.Cli.Failures
import Casework.Proofs.Cli.Listing
import Casework.Proofs.Cli.Lookup
import Casework.Proofs.Cli.Recovery
import Casework.Proofs.Config.Numbers
import Casework.Proofs.Config.Tools
import Casework.Proofs.Dispatch.Declaration
import Casework.Proofs.Dispatch.Effects
import Casework.Proofs.Dispatch.Fates
import Casework.Proofs.Dispatch.Handover
import Casework.Proofs.Dispatch.LatestRuns
import Casework.Proofs.Dispatch.Lines
import Casework.Proofs.Dispatch.Naming
import Casework.Proofs.Dispatch.Ownership
import Casework.Proofs.Dispatch.Polling
import Casework.Proofs.Dispatch.Readiness
import Casework.Proofs.Dispatch.Reports
import Casework.Proofs.Dispatch.Schedules
import Casework.Proofs.Dispatch.Scoping
import Casework.Proofs.Dispatch.Steps
import Casework.Proofs.Dispatch.Stranding
import Casework.Proofs.Dispatch.Tasks
import Casework.Proofs.Dispatch.Timers
import Casework.Proofs.Dispatch.World
import Casework.Proofs.Hook.Exactness
import Casework.Proofs.Hook.Firing
import Casework.Proofs.Hook.Glob
import Casework.Proofs.Hook.Widening
import Casework.Proofs.Host.FileTree
import Casework.Proofs.Http.Answers
import Casework.Proofs.Http.Failures
import Casework.Proofs.Http.Gate
import Casework.Proofs.Http.Key
import Casework.Proofs.Http.Registration
import Casework.Proofs.Http.Reporting
import Casework.Proofs.Http.Routing
import Casework.Proofs.Job.LineByLine
import Casework.Proofs.Job.Message
import Casework.Proofs.Job.Records
import Casework.Proofs.Job.Stream
import Casework.Proofs.Json.Arrangement
import Casework.Proofs.Json.Codec
import Casework.Proofs.Json.Members
import Casework.Proofs.Json.Reader
import Casework.Proofs.Json.Skipping
import Casework.Proofs.Json.Spelling
import Casework.Proofs.Module.Artifacts
import Casework.Proofs.Module.Confinement
import Casework.Proofs.Module.Configured
import Casework.Proofs.Module.Name
import Casework.Proofs.Module.Outputs
import Casework.Proofs.Module.Overlap
import Casework.Proofs.Module.Paths
import Casework.Proofs.Net.Url
import Casework.Proofs.Queue.Conservation
import Casework.Proofs.Queue.History
import Casework.Proofs.Queue.Holding
import Casework.Proofs.Queue.Lifecycle
import Casework.Proofs.Queue.Order
import Casework.Proofs.Store.Commuting
import Casework.Proofs.Store.Computation
import Casework.Proofs.Store.Failures
import Casework.Proofs.Store.Items
import Casework.Proofs.Store.JobChange
import Casework.Proofs.Store.Listing
import Casework.Proofs.Store.Operations
import Casework.Proofs.Store.References
import Casework.Proofs.Text.Digits
import Casework.Proofs.Text.Percent
import Casework.Proofs.Text.Pieces
import Casework.Proofs.Text.Utf8
import Casework.Proofs.Timestamp.Reader
import Casework.Proofs.Worker.Accounting
import Casework.Proofs.Worker.Isolation
import Casework.Proofs.Worker.Outcomes
import Casework.Proofs.Worker.Shutdown
import Casework.Store.Basic
import Casework.Store.Jobs
import Casework.Store.Location
import Casework.Store.Records
import Casework.Store.Row
import Casework.Store.Snapshot
import Casework.Supply
import Casework.Telemetry
import Casework.Text.Blank
import Casework.Text.CaseFold
import Casework.Text.Numeral
import Casework.Text.Pad
import Casework.Text.Percent
import Casework.Text.Quoted
import Casework.Text.Unseen
import Casework.Text.Utf8
import Casework.Timestamp.Basic
import Casework.Timestamp.Reader
import Casework.Toml.Document
import Casework.Toml.Node
import Casework.Toml.Token
import Casework.Worker.Basic
import Casework.Worker.Client
import Casework.Worker.Report
