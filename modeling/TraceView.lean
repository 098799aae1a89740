import TraceView.Grid.Basic
import TraceView.Binding.Placement
import TraceView.Page.Panel
import TraceView.Interpreter
import TraceView.Settings.Load
import TraceView.Run.Scheduler
import TraceView.Editor.Host
import TraceView.Machine.Journal
import TraceView.Program.TraceOnce
import TraceView.Main
import TraceView.Proofs.Run.SingleFlight
import TraceView.Proofs.Run.Authority
import TraceView.Proofs.Run.Wakeup
import TraceView.Proofs.Run.Debounce
import TraceView.Proofs.Run.Prompts
import TraceView.Proofs.Grid.FailedRun
import TraceView.Proofs.Run.Isolation
import TraceView.Proofs.Run.Exclusive
import TraceView.Proofs.Editor.Frame
import TraceView.Proofs.Editor.Faithful
import TraceView.Proofs.Run.CopyName
import TraceView.Proofs.Text.Occurrence
import TraceView.Proofs.Run.LatestText
import TraceView.Proofs.Editor.Aftermath
import TraceView.Proofs.Run.Absence
import TraceView.Proofs.Editor.Silence
import TraceView.Proofs.Run.Standing
import TraceView.Proofs.Editor.Status
import TraceView.Proofs.Page.Markup
import TraceView.Proofs.Run.Scratch
import TraceView.Proofs.Run.Lifecycle
import TraceView.Proofs.Run.RefusedInstall
import TraceView.Proofs.Page.Variables
import TraceView.Proofs.Page.Visibility
import TraceView.Proofs.Run.Launches
import TraceView.Proofs.Editor.Ticks
import TraceView.Proofs.Grid.Segments
import TraceView.Proofs.Editor.Stream
import TraceView.Proofs.Editor.Reader
import TraceView.Proofs.Binding.Scan
import TraceView.Proofs.Run.Report
import TraceView.Proofs.Binding.Placement
import TraceView.Proofs.Interpreter
import TraceView.Proofs.Html.Escape
