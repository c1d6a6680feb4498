import GestureScript.Binary64.Basic
import GestureScript.Binary64.Reader
import GestureScript.Binary64.Shortest
import GestureScript.Capability.DryRun
import GestureScript.Capability.Gate
import GestureScript.Capability.Playback
import GestureScript.Capability.Rig
import GestureScript.Capability.Worker
import GestureScript.Clock
import GestureScript.Command.Basic
import GestureScript.Command.Display
import GestureScript.Command.Grammar
import GestureScript.Command.Schema
import GestureScript.Command.Script
import GestureScript.Console.Argument.Escape
import GestureScript.Console.Argument.Grammar
import GestureScript.Console.Argument.Lexer
import GestureScript.Console.Argument.Number
import GestureScript.Console.Argument.Pattern
import GestureScript.Console.Argument.Quotation
import GestureScript.Console.Argument.Reader
import GestureScript.Console.Argument.Template
import GestureScript.Console.Argument.Token
import GestureScript.Console.Argument.Tree
import GestureScript.Console.Argument.Value
import GestureScript.Console.Columns
import GestureScript.Console.Emoji.Codes
import GestureScript.Console.Emoji.Names
import GestureScript.Console.Handler
import GestureScript.Console.Layout
import GestureScript.Console.Markup
import GestureScript.Console.Options
import GestureScript.Console.Session
import GestureScript.Console.Source
import GestureScript.Console.Style
import GestureScript.Console.Word
import GestureScript.Desktop.Call
import GestureScript.Desktop.Gesture
import GestureScript.Desktop.Worker
import GestureScript.Element.Basic
import GestureScript.Element.Schema
import GestureScript.Element.Traversal
import GestureScript.Extent
import GestureScript.Json.Basic
import GestureScript.Json.Display
import GestureScript.Json.Reader
import GestureScript.Json.Writer
import GestureScript.Main
import GestureScript.Monitor.Basic
import GestureScript.Monitor.Input
import GestureScript.Monitor.Listener
import GestureScript.Numeral
import GestureScript.Outcome.Basic
import GestureScript.Outcome.Fault
import GestureScript.Outcome.Schema
import GestureScript.Pipeline.Basic
import GestureScript.Pipeline.Payload
import GestureScript.Pipeline.Script
import GestureScript.Pipeline.Status
import GestureScript.Proofs.Capability.Answer
import GestureScript.Proofs.Capability.Closed
import GestureScript.Proofs.Capability.Completion
import GestureScript.Proofs.Capability.Gate
import GestureScript.Proofs.Capability.Lock
import GestureScript.Proofs.Capability.Performance
import GestureScript.Proofs.Command.Canonical
import GestureScript.Proofs.Command.Display
import GestureScript.Proofs.Command.Grammar
import GestureScript.Proofs.Command.Locality
import GestureScript.Proofs.Command.Script
import GestureScript.Proofs.Command.Standard
import GestureScript.Proofs.Command.Written
import GestureScript.Proofs.Console.Agreement
import GestureScript.Proofs.Console.ExitCode
import GestureScript.Proofs.Console.Markup
import GestureScript.Proofs.Console.Summary
import GestureScript.Proofs.Desktop.Faults
import GestureScript.Proofs.Desktop.Navigation
import GestureScript.Proofs.Desktop.Pointer
import GestureScript.Proofs.Desktop.Reference
import GestureScript.Proofs.Desktop.Release
import GestureScript.Proofs.Element.Fields
import GestureScript.Proofs.Element.Preorder
import GestureScript.Proofs.Element.RoundTrip
import GestureScript.Proofs.Element.Written
import GestureScript.Proofs.Json.Reading
import GestureScript.Proofs.Json.Scalar
import GestureScript.Proofs.Monitor.Chain
import GestureScript.Proofs.Monitor.Delivery
import GestureScript.Proofs.Monitor.Hearing
import GestureScript.Proofs.Monitor.History
import GestureScript.Proofs.Monitor.Log
import GestureScript.Proofs.Monitor.Quiet
import GestureScript.Proofs.Monitor.Registry
import GestureScript.Proofs.Monitor.Screen
import GestureScript.Proofs.Monitor.Streams
import GestureScript.Proofs.Numeral
import GestureScript.Proofs.Pipeline.Account
import GestureScript.Proofs.Pipeline.Client
import GestureScript.Proofs.Pipeline.Desktop
import GestureScript.Proofs.Pipeline.Dispatch
import GestureScript.Proofs.Pipeline.DryRun
import GestureScript.Proofs.Pipeline.Failure
import GestureScript.Proofs.Pipeline.Fleet
import GestureScript.Proofs.Pipeline.Growth
import GestureScript.Proofs.Pipeline.Legs
import GestureScript.Proofs.Pipeline.Meanwhile
import GestureScript.Proofs.Pipeline.Moment
import GestureScript.Proofs.Pipeline.Protocol
import GestureScript.Proofs.Pipeline.Report
import GestureScript.Proofs.Pipeline.Scene
import GestureScript.Proofs.Pipeline.Schedule
import GestureScript.Proofs.Pipeline.Script
import GestureScript.Proofs.Pipeline.Shutdown
import GestureScript.Proofs.Pipeline.Sole
import GestureScript.Proofs.Pipeline.Stand
import GestureScript.Proofs.Pipeline.Threads
import GestureScript.Proofs.Pipeline.Traffic
import GestureScript.Proofs.Settings.Environment
import GestureScript.Proofs.Settings.Hotkey
import GestureScript.Proofs.Settings.RoundTrip
import GestureScript.Proofs.Text.Lines
import GestureScript.Proofs.Text.Words
import GestureScript.Settings.Basic
import GestureScript.Settings.Current
import GestureScript.Settings.Environment
import GestureScript.Text.Blank
import GestureScript.Text.Category
import GestureScript.Text.Category.Table
import GestureScript.Text.DecimalDigit
import GestureScript.Text.Lines
import GestureScript.Text.Lowercase
import GestureScript.Text.Pieces
import GestureScript.Text.Quoted
import GestureScript.Text.Runs
import GestureScript.Validation.Basic
import GestureScript.Validation.Field
import GestureScript.Validation.Scalar
import GestureScript.Proofs.Element.Spelling
import GestureScript.Proofs.Console.Signs
import GestureScript.Proofs.Console.Listing
