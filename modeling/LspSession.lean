import LspSession.Text.Utf8
import LspSession.Text.Blank
import LspSession.Text.Decimal
import LspSession.Text.Quoted
import LspSession.Json.Reader
import LspSession.Uri
import LspSession.Json.Conversion
import LspSession.Frame.Decode
import LspSession.Message.Classify
import LspSession.Event.Basic
import LspSession.Client.Receive
import LspSession.Client.Command
import LspSession.Client.Journal
import LspSession.Json.Outline
import LspSession.Pump.Transport
import LspSession.Pump.Basic
import LspSession.CommandLine
import LspSession.Log.Config
import LspSession.Log.Filter
import LspSession.Text.Duration
import LspSession.Handshake.Error
import LspSession.Host.Process
import LspSession.Host.Shell.Pattern
import LspSession.Host.Shell.State
import LspSession.Host.Shell.Expansion
import LspSession.Host.Shell.Format
import LspSession.Host.Shell.Builtin
import LspSession.Host.Shell.Run
import LspSession.Host.Computer
import LspSession.Handshake.Converse
import LspSession.Handshake.Program
import LspSession.Log.Line
import LspSession.Main
import LspSession.Proofs.Client.Chunks
import LspSession.Proofs.Client.Outgoing
import LspSession.Proofs.Client.Course
import LspSession.Proofs.Client.Correlation
import LspSession.Proofs.Client.Input
import LspSession.Proofs.Client.Replies
import LspSession.Proofs.Client.Recorded
import LspSession.Proofs.Frame.RoundTrip
import LspSession.Proofs.Message.RoundTrip
import LspSession.Proofs.Pump.Refusal
import LspSession.Proofs.Handshake.Course
import LspSession.Proofs.Client.Kept
import LspSession.Proofs.Pump.Unsent
import LspSession.Proofs.Frame.Limit
import LspSession.Proofs.Client.Order
import LspSession.Proofs.Message.Grammar
import LspSession.Proofs.Frame.Scan
import LspSession.Proofs.Event.Translation
import LspSession.Proofs.Client.Introduction
import LspSession.Proofs.Client.Echo
import LspSession.Proofs.Handshake.Root
import LspSession.Proofs.Json.Fault
import LspSession.Proofs.Message.Id
import LspSession.Proofs.Frame.Places
import LspSession.Proofs.Log.Filter
import LspSession.Proofs.Log.UniquePath
