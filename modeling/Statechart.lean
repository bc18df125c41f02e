import Statechart.Checksum
import Statechart.Command
import Statechart.CommandLine.Arguments
import Statechart.CommandLine.Basic
import Statechart.Decimal.Shortest
import Statechart.Definition.Basic
import Statechart.Definition.Check
import Statechart.Definition.Error
import Statechart.Definition.Format
import Statechart.Definition.Yaml
import Statechart.Diagnostics
import Statechart.Event
import Statechart.Exit
import Statechart.Failure
import Statechart.Files
import Statechart.Interpreter
import Statechart.Json.Document
import Statechart.Json.Number
import Statechart.Json.Outline
import Statechart.Json.Printer
import Statechart.Json.Reader
import Statechart.Json.Shape
import Statechart.Json.Value
import Statechart.Machine.Basic
import Statechart.Machine.Builder
import Statechart.Machine.State
import Statechart.Main
import Statechart.Preset
import Statechart.Proofs.Definition.Check
import Statechart.Proofs.Definition.Layout
import Statechart.Proofs.Definition.Names
import Statechart.Proofs.Definition.Reach
import Statechart.Proofs.Definition.Rearrangement
import Statechart.Proofs.Definition.Semantics
import Statechart.Proofs.Definition.WellFormed
import Statechart.Proofs.Interpreter.ActivePath
import Statechart.Proofs.Interpreter.Atomicity
import Statechart.Proofs.Interpreter.Call
import Statechart.Proofs.Interpreter.Checkpoint
import Statechart.Proofs.Interpreter.Independence
import Statechart.Proofs.Interpreter.Lifecycle
import Statechart.Proofs.Interpreter.Notification
import Statechart.Proofs.Interpreter.Operation
import Statechart.Proofs.Interpreter.Refinement
import Statechart.Proofs.Interpreter.Registration
import Statechart.Proofs.Interpreter.Renumbering
import Statechart.Proofs.Json.Document
import Statechart.Proofs.Json.Folding
import Statechart.Proofs.Machine.Built
import Statechart.Proofs.Machine.Construction
import Statechart.Proofs.Machine.Entry
import Statechart.Proofs.Machine.Handling
import Statechart.Proofs.Machine.Preorder
import Statechart.Proofs.Machine.Rearrangement
import Statechart.Proofs.Machine.Renumbering
import Statechart.Proofs.Machine.Resolution
import Statechart.Proofs.StatePath
import Statechart.Proofs.Table
import Statechart.Report
import Statechart.Run
import Statechart.Script
import Statechart.Script.Yaml
import Statechart.ScriptedRun
import Statechart.Session.Basic
import Statechart.Session.Line
import Statechart.Session.Request
import Statechart.Session.Transcript
import Statechart.Settings.Basic
import Statechart.Settings.Yaml
import Statechart.Snapshot
import Statechart.Source
import Statechart.StatePath
import Statechart.Table
import Statechart.Text.Blank
import Statechart.Text.CaseTable
import Statechart.Text.Cluster
import Statechart.Text.ClusterTable
import Statechart.Text.ExtendTable
import Statechart.Text.Lowercase
import Statechart.Text.Printable
import Statechart.Text.Ranges
import Statechart.Tree
import Statechart.Yaml.Cursor
import Statechart.Yaml.Node
import Statechart.Yaml.Reading
import Statechart.Yaml.Resolved
import Statechart.Yaml.Scalar
import Statechart.Yaml.Tag
import Statechart.Yaml.Token
import Statechart.Yaml.Writer
import Statechart.Proofs.Definition.Export
import Statechart.Proofs.Json.Reader
import Statechart.Proofs.Definition.Folding
import Statechart.Proofs.Definition.Agreement
import Statechart.Proofs.Run.Account
import Statechart.Proofs.Run.FailureMode
import Statechart.Proofs.FrontEnds
import Statechart.Proofs.Run.HandledFlag
import Statechart.Proofs.Text.Words
import Statechart.Proofs.Session.Lines
import Statechart.Proofs.Session.Recording
import Statechart.Proofs.Run.HiddenContext
import Statechart.Proofs.Interpreter.Context
import Statechart.Proofs.Text.ByteOrder
import Statechart.Proofs.Interpreter.Offers
import Statechart.Proofs.Definition.Rejection
import Statechart.Proofs.Machine.Targets
import Statechart.Proofs.Machine.DefaultEntry
import Statechart.Proofs.Text.Segments
import Statechart.Proofs.Json.Text
import Statechart.Proofs.Machine.Lookup
import Statechart.Proofs.Snapshot.Position
import Statechart.Proofs.Snapshot.PathText
import Statechart.Proofs.Snapshot.StateValue
import Statechart.Proofs.Session.Failure
import Statechart.Proofs.Session.TypedLines
import Statechart.Proofs.Tree
import Statechart.Proofs.Script
import Statechart.Proofs.Json.Value
import Statechart.Proofs.Json.Printer
import Statechart.Proofs.Text.Spacing
import Statechart.Proofs.Json.Spacing
import Statechart.Proofs.Session.StartContext
import Statechart.Proofs.Definition.TargetText
import Statechart.Proofs.Text.Lowercase
import Statechart.Proofs.Settings.Layering
import Statechart.Proofs.ErrorCodes
