import CommandShell.Main
import CommandShell.Completion
import CommandShell.Scene
import CommandShell.Proofs.Text.Encoding
import CommandShell.Proofs.Text.Lines
import CommandShell.Proofs.History.Entries
import CommandShell.Proofs.Words.Grammar
import CommandShell.Proofs.Words.Reading
import CommandShell.Proofs.Words.RoundTrip
import CommandShell.Proofs.Words.Kept
import CommandShell.Proofs.Words.Runs
import CommandShell.Proofs.Words.Continued
import CommandShell.Proofs.Command.RoundTrip
import CommandShell.Proofs.Store.Creation
import CommandShell.Proofs.Store.Target
import CommandShell.Proofs.Store.Start
import CommandShell.Proofs.Store.Absolute
import CommandShell.Proofs.History.File
import CommandShell.Proofs.World.Logged
import CommandShell.Proofs.Routing.Delivery
import CommandShell.Proofs.Command.Items
import CommandShell.Proofs.Command.Written
import CommandShell.Proofs.Routing.Stages
import CommandShell.Proofs.Routing.SharedFile
import CommandShell.Proofs.Routing.Frame
import CommandShell.Proofs.Routing.FirstFailure
import CommandShell.Proofs.Dispatch.EchoLine
import CommandShell.Proofs.Dispatch.EchoRuns
import CommandShell.Proofs.Dispatch.ProgramLine
import CommandShell.Proofs.Dispatch.Search
import CommandShell.Proofs.Dispatch.Trace
import CommandShell.Proofs.Dispatch.BuiltinLine
import CommandShell.Proofs.Shell.Session
import CommandShell.Proofs.Shell.HistoryFile
import CommandShell.Proofs.Completion.Offered
import CommandShell.Proofs.Completion.Accepted
import CommandShell.Proofs.Command.Composed
import CommandShell.Proofs.Dispatch.Unlogged
import CommandShell.Proofs.Text.Delimited
import CommandShell.Proofs.Words.Canonical
import CommandShell.Proofs.Dispatch.CommandRecord
import CommandShell.Proofs.Routing.Apart
import CommandShell.Proofs.Store.Listed
import CommandShell.Proofs.Text.Order
import CommandShell.Proofs.Completion.Names
import CommandShell.Proofs.Number.Signed
import CommandShell.Proofs.Shell.ExitStatus
import CommandShell.Proofs.Dispatch.PathNames
import CommandShell.Proofs.Toml.Keys
import CommandShell.Proofs.Config.Entries
import CommandShell.Proofs.Config.Loaded
import CommandShell.Proofs.Words.Toggle
import CommandShell.Proofs.Text.Slices
import CommandShell.Proofs.Completion.LastWord
