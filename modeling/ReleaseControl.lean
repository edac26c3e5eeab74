import ReleaseControl.Name
import ReleaseControl.Assoc
import ReleaseControl.Dictionary
import ReleaseControl.Json.Basic
import ReleaseControl.Json.Reader
import ReleaseControl.Json.Printer
import ReleaseControl.Json.Decode
import ReleaseControl.Record.Key
import ReleaseControl.Record.Metadata
import ReleaseControl.Record.Basic
import ReleaseControl.Record.Condition
import ReleaseControl.Record.Release
import ReleaseControl.Record.ReleaseLink
import ReleaseControl.Record.ReleaseStrategy
import ReleaseControl.Record.PipelineRun
import ReleaseControl.Watch.Timestamp
import ReleaseControl.Watch.Event
import ReleaseControl.Store.Error
import ReleaseControl.Store.Stored
import ReleaseControl.Store.Query
import ReleaseControl.Store.FieldIndex
import ReleaseControl.Store.Basic
import ReleaseControl.Store.Program
import ReleaseControl.Reconcile.Error
import ReleaseControl.Reconcile.Chain
import ReleaseControl.Reconcile.Trigger
import ReleaseControl.Reconcile.Attempt
import ReleaseControl.Watch.Channel
import ReleaseControl.Queue.Backoff
import ReleaseControl.Queue.WorkQueue
import ReleaseControl.Queue.Timed
import ReleaseControl.Reconcile.Worker
import ReleaseControl.Watch.Log
import ReleaseControl.Deployment.Fault
import ReleaseControl.Deployment.Basic
import ReleaseControl.Text.Blank
import ReleaseControl.Text.Reader
import ReleaseControl.Text.Utf8
import ReleaseControl.Text.Alphanumeric
import ReleaseControl.Settings.Basic
import ReleaseControl.Text.Split
import ReleaseControl.Files.Disk
import ReleaseControl.Files.Tree
import ReleaseControl.Seed.Manifest
import ReleaseControl.Seed.Basic
import ReleaseControl.Toml.Text
import ReleaseControl.Toml.Number
import ReleaseControl.Toml.Table
import ReleaseControl.Toml.Reader
import ReleaseControl.Number.Plain
import ReleaseControl.Settings.Path
import ReleaseControl.Text.Hex
import ReleaseControl.Ini.Reader
import ReleaseControl.Json5.Reader
import ReleaseControl.Ron.Reader
import ReleaseControl.Yaml.Lexer
import ReleaseControl.Yaml.Scalar
import ReleaseControl.Yaml.Token
import ReleaseControl.Yaml.Value
import ReleaseControl.Settings.Format
import ReleaseControl.Settings.Layers
import ReleaseControl.Settings.Load
import ReleaseControl.Environment.Basic
import ReleaseControl.Environment.Lines
import ReleaseControl.Environment.File
import ReleaseControl.Log.Pattern
import ReleaseControl.Log.Filter
import ReleaseControl.CommandLine.Report
import ReleaseControl.CommandLine.Session
import ReleaseControl.Main
import ReleaseControl.Proofs.Json.Members
import ReleaseControl.Proofs.Json.Shapes
import ReleaseControl.Proofs.Record.Codec
import ReleaseControl.Proofs.Store.Objects
import ReleaseControl.Proofs.Store.Effect
import ReleaseControl.Proofs.Assoc
import ReleaseControl.Proofs.Store.Soundness
import ReleaseControl.Proofs.Name
import ReleaseControl.Proofs.Record.RunName
import ReleaseControl.Proofs.Store.Program
import ReleaseControl.Proofs.Store.Frame
import ReleaseControl.Proofs.Reconcile.Aftermath
import ReleaseControl.Proofs.Record.Status
import ReleaseControl.Proofs.Reconcile.Course
import ReleaseControl.Proofs.Reconcile.Transient
import ReleaseControl.Proofs.Reconcile.Footprint
import ReleaseControl.Proofs.Reconcile.Counterparts
import ReleaseControl.Proofs.Reconcile.TargetLookup
import ReleaseControl.Proofs.Reconcile.Symmetry
import ReleaseControl.Proofs.Reconcile.Consent
import ReleaseControl.Proofs.Reconcile.Finding
import ReleaseControl.Proofs.Reconcile.Runs
import ReleaseControl.Proofs.Reconcile.SideBySide
import ReleaseControl.Proofs.Reconcile.Convergence
import ReleaseControl.Proofs.Record.Same
import ReleaseControl.Proofs.Store.Update
import ReleaseControl.Proofs.Reconcile.History
import ReleaseControl.Proofs.Reconcile.SingleRun
import ReleaseControl.Proofs.Reconcile.Agreement
import ReleaseControl.Proofs.Channel
import ReleaseControl.Proofs.Queue
import ReleaseControl.Proofs.Service.Basic
import ReleaseControl.Proofs.Service.Obligation
import ReleaseControl.Proofs.Service.Running
import ReleaseControl.Proofs.Service.NoLostRelease
import ReleaseControl.Proofs.Reconcile.Alike
import ReleaseControl.Proofs.Service.Draining
import ReleaseControl.Proofs.Service.Drained
import ReleaseControl.Proofs.Queue.Ledger
import ReleaseControl.Proofs.Queue.Retries
import ReleaseControl.Proofs.Reconcile.Interleaving
import ReleaseControl.Proofs.Reconcile.Markers
import ReleaseControl.Proofs.Reconcile.Monotone
import ReleaseControl.Proofs.Reconcile.Terminal
import ReleaseControl.Proofs.Service.Deployed
import ReleaseControl.Proofs.Store.Versions
import ReleaseControl.Proofs.Watch.Log
import ReleaseControl.Proofs.Store.Ownership
import ReleaseControl.Proofs.Watch.Atomicity
import ReleaseControl.Proofs.Watch.Generations
import ReleaseControl.Proofs.Store.Passes
import ReleaseControl.Proofs.Label
import ReleaseControl.Proofs.Record.Transitions
import ReleaseControl.Proofs.Reconcile.Parameters
import ReleaseControl.Proofs.Seed
