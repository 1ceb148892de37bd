import AutomatonChart.Automaton.Decoding
import AutomatonChart.Automaton.Description
import AutomatonChart.Automaton.Key
import AutomatonChart.Collection.OrderedMap
import AutomatonChart.Collection.OrderedSet
import AutomatonChart.CommandLine.Arguments
import AutomatonChart.CommandLine.Command
import AutomatonChart.CommandLine.EnvFile
import AutomatonChart.CommandLine.Program
import AutomatonChart.CommandLine.Run
import AutomatonChart.CommandLine.Transcript
import AutomatonChart.Decimal.Shortest
import AutomatonChart.Delivery.Directory
import AutomatonChart.Delivery.Page
import AutomatonChart.Delivery.Renderer
import AutomatonChart.Delivery.Stream
import AutomatonChart.Files.Error
import AutomatonChart.Files.Node
import AutomatonChart.Files.Path
import AutomatonChart.Files.Tree
import AutomatonChart.Flowchart.Chart
import AutomatonChart.Flowchart.Grouping
import AutomatonChart.Flowchart.StateIds
import AutomatonChart.Json.Basic
import AutomatonChart.Json.Cursor
import AutomatonChart.Json.Number
import AutomatonChart.Json.NumberReader
import AutomatonChart.Json.Printer
import AutomatonChart.Json.Reader
import AutomatonChart.Json.StringReader
import AutomatonChart.Json.SyntaxError
import AutomatonChart.Main
import AutomatonChart.Proofs.Collection
import AutomatonChart.Proofs.Groups
import AutomatonChart.Service.Client
import AutomatonChart.Service.Config
import AutomatonChart.Service.Error
import AutomatonChart.Service.Http
import AutomatonChart.Service.Reply
import AutomatonChart.Session.Event
import AutomatonChart.Session.View
import AutomatonChart.Text.Alphanumeric
import AutomatonChart.Text.Blank
import AutomatonChart.Text.Quoted
import AutomatonChart.Text.Ranges
import AutomatonChart.Text.Unprintable
import AutomatonChart.Text.Utf8
import AutomatonChart.Proofs.KeySplitting
import AutomatonChart.Proofs.KeyFormat
import AutomatonChart.Proofs.Determinism
import AutomatonChart.Proofs.ChartText
import AutomatonChart.Proofs.History
import AutomatonChart.Proofs.Rendering
import AutomatonChart.Proofs.Replies
import AutomatonChart.Proofs.Submission
import AutomatonChart.Proofs.Commands
import AutomatonChart.Proofs.SavedReply
import AutomatonChart.Proofs.Cleaning
import AutomatonChart.Proofs.Reordering
import AutomatonChart.Proofs.WellKeyed
import AutomatonChart.Proofs.Fields
import AutomatonChart.Proofs.ListedDescriptions
import AutomatonChart.Proofs.Classification
import AutomatonChart.Proofs.Sessions
import AutomatonChart.Proofs.FileFrame
import AutomatonChart.Proofs.Placement
import AutomatonChart.Proofs.Reporting
import AutomatonChart.Proofs.ExitStatus
import AutomatonChart.Proofs.ServiceUrl
import AutomatonChart.Proofs.LogVisibility
import AutomatonChart.Proofs.StreamBlocks
import AutomatonChart.Proofs.Gates
import AutomatonChart.Proofs.MakingDirectories
import AutomatonChart.Proofs.PaneIsolation
import AutomatonChart.Proofs.AddedState
import AutomatonChart.Proofs.Refusals
import AutomatonChart.Proofs.Attempts
import AutomatonChart.Proofs.LimitedOutput
import AutomatonChart.Proofs.DirectoryFrame
import AutomatonChart.Proofs.PageMarkup
import AutomatonChart.Proofs.UrlForm
import AutomatonChart.Proofs.TextBytes
import AutomatonChart.Proofs.Configuration
import AutomatonChart.Proofs.Identifiers
import AutomatonChart.Proofs.Escaping
