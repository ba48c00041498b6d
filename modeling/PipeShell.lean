import PipeShell.Command.Line
import PipeShell.Pipeline.Run
import PipeShell.Session.Basic
import PipeShell.Options
import PipeShell.Machine.Run
import PipeShell.Programs.Loading
import PipeShell.Main
import PipeShell.Proofs.Machine.Interleaving
import PipeShell.Proofs.Machine.Moment
import PipeShell.Proofs.Machine.Holders
import PipeShell.Proofs.Machine.Deadlock
import PipeShell.Proofs.Machine.Flow
import PipeShell.Proofs.Pipeline.Remains
import PipeShell.Proofs.Pipeline.Fates
import PipeShell.Proofs.Command.Expressible
import PipeShell.Proofs.Command.Agreement
import PipeShell.Proofs.Session.Status
import PipeShell.Proofs.Pipeline.Inheritance
import PipeShell.Proofs.Pipeline.Mirror
import PipeShell.Proofs.Pipeline.CleanUp
import PipeShell.Proofs.Command.Margins
import PipeShell.Proofs.Text.Lines
import PipeShell.Proofs.Session.Aborted
import PipeShell.Proofs.Session.Requests
import PipeShell.Proofs.Command.Segments
import PipeShell.Proofs.Machine.Room
import PipeShell.Proofs.Pipeline.Order
import PipeShell.Proofs.Pipeline.OuterStreams
import PipeShell.Proofs.Command.Grammar
import PipeShell.Proofs.Command.Composition
import PipeShell.Proofs.Command.Padding
import PipeShell.Proofs.Command.Trimming
import PipeShell.Proofs.Session.ExitStatus
import PipeShell.Proofs.Session.HandedOver
import PipeShell.Proofs.Pipeline.Failures
import PipeShell.Proofs.Pipeline.Aborted
import PipeShell.Proofs.Pipeline.Chain
import PipeShell.Proofs.Session.Ending
import PipeShell.Proofs.Session.Runs
