import Workflow.Bytes.Base64
import Workflow.Bytes.Hex
import Workflow.Bytes.Utf16
import Workflow.Bytes.Utf8
import Workflow.Chain
import Workflow.Chain.Run
import Workflow.CommandLine
import Workflow.CommandLine.Arguments
import Workflow.CommandLine.Command
import Workflow.Completion.Chat
import Workflow.Completion.Claude
import Workflow.Completion.Gemini
import Workflow.Completion.OpenAi
import Workflow.Completion.Prompt
import Workflow.Database
import Workflow.Database.Connection
import Workflow.Database.Datum
import Workflow.Database.Document
import Workflow.Database.DocumentQuery
import Workflow.Database.Kind
import Workflow.Database.Moment
import Workflow.Database.Options
import Workflow.Database.Target
import Workflow.Engine
import Workflow.Event
import Workflow.Failure
import Workflow.Fields
import Workflow.Files
import Workflow.Files.Path
import Workflow.Http
import Workflow.Http.Call
import Workflow.Http.Status
import Workflow.Json
import Workflow.Json.Number
import Workflow.Json.Printer
import Workflow.Json.Reader
import Workflow.Json.Record
import Workflow.Main
import Workflow.Messaging.Address
import Workflow.Messaging.Mail
import Workflow.Messaging.Slack
import Workflow.Messaging.Webhook
import Workflow.Messaging.WhatsApp
import Workflow.Node
import Workflow.Node.Scripted
import Workflow.Number.Binary64
import Workflow.Number.Decimal128
import Workflow.Number.Shortest
import Workflow.Number.Text
import Workflow.Output.PdfFile
import Workflow.Output.Target
import Workflow.Output.TextFile
import Workflow.Params
import Workflow.Pdf
import Workflow.Pdf.Content
import Workflow.Pdf.Encoding
import Workflow.Pdf.Layout
import Workflow.Port
import Workflow.Proofs.Chain.Abort
import Workflow.Proofs.Chain.Building
import Workflow.Proofs.Chain.Course
import Workflow.Proofs.Chain.Lockstep
import Workflow.Proofs.Chain.Outcome
import Workflow.Proofs.Chain.Policies
import Workflow.Proofs.Chain.Reference
import Workflow.Proofs.Chain.Refusals
import Workflow.Proofs.Chain.Registration
import Workflow.Proofs.Chain.Reports
import Workflow.Proofs.Chain.SoftFailure
import Workflow.Proofs.Chain.Trace
import Workflow.Proofs.Database.Connection
import Workflow.Proofs.Database.Records
import Workflow.Proofs.Database.Running
import Workflow.Proofs.Database.Settled
import Workflow.Proofs.Database.Shape
import Workflow.Proofs.Engine.Invocation
import Workflow.Proofs.Engine.LeastPrivilege
import Workflow.Proofs.Engine.Nulls
import Workflow.Proofs.Except
import Workflow.Proofs.Fields
import Workflow.Proofs.Files.Changes
import Workflow.Proofs.Files.Steps
import Workflow.Proofs.Files.Writing
import Workflow.Proofs.Json.Grammar
import Workflow.Proofs.Json.Lists
import Workflow.Proofs.Json.Numerals
import Workflow.Proofs.Json.Tokens
import Workflow.Proofs.Json.Written
import Workflow.Proofs.Node.Accepted
import Workflow.Proofs.Node.Actions
import Workflow.Proofs.Node.Calls
import Workflow.Proofs.Node.Drafts
import Workflow.Proofs.Node.Footprint
import Workflow.Proofs.Node.Nulls
import Workflow.Proofs.Node.Ownership
import Workflow.Proofs.Node.Parameters
import Workflow.Proofs.Node.Reading
import Workflow.Proofs.Node.Recording
import Workflow.Proofs.Node.Refusal
import Workflow.Proofs.Node.Standard
import Workflow.Proofs.Output.Confinement
import Workflow.Proofs.Output.Saving
import Workflow.Proofs.Pdf.Assembly
import Workflow.Proofs.Pdf.Interpreter
import Workflow.Proofs.Pdf.Literal
import Workflow.Proofs.Pdf.Objects
import Workflow.Proofs.Pdf.Pagination
import Workflow.Proofs.Pdf.Printed
import Workflow.Proofs.Pdf.Reader
import Workflow.Proofs.Pdf.Sheets
import Workflow.Proofs.Pdf.Showing
import Workflow.Proofs.Pdf.Structure
import Workflow.Proofs.Pdf.Unencodable
import Workflow.Proofs.Pdf.WinAnsi
import Workflow.Proofs.Registry
import Workflow.Proofs.Rendering
import Workflow.Proofs.Request
import Workflow.Proofs.Surfaces
import Workflow.Proofs.Text.Breaking
import Workflow.Proofs.Text.Filling
import Workflow.Proofs.Text.Occurrences
import Workflow.Proofs.Text.Pieces
import Workflow.Proofs.Text.Spacing
import Workflow.Proofs.Transform.Edits
import Workflow.Proofs.Url.Address
import Workflow.Proofs.Url.Changes
import Workflow.Proofs.Url.Hosts
import Workflow.Proofs.Url.Percent
import Workflow.Proofs.Url.Reading
import Workflow.Proofs.Value.Exact
import Workflow.Proofs.Value.Untagged
import Workflow.Proofs.Video.CaptionTracks
import Workflow.Proofs.Video.Transcript
import Workflow.Publishing.Draft
import Workflow.Registry
import Workflow.Request
import Workflow.Server
import Workflow.Server.JsonBody
import Workflow.Server.MediaType
import Workflow.Server.Settings
import Workflow.StandardNodes
import Workflow.State
import Workflow.Text.Alphanumeric
import Workflow.Text.Blank
import Workflow.Text.Combining
import Workflow.Text.Composed
import Workflow.Text.Direction
import Workflow.Text.Joining
import Workflow.Text.Lines
import Workflow.Text.Mark
import Workflow.Text.Quoted
import Workflow.Text.Replace
import Workflow.Text.Table
import Workflow.Text.Unshown
import Workflow.Text.Wrap
import Workflow.Transform.Format
import Workflow.Transform.TextEditor
import Workflow.Url
import Workflow.Url.Domain
import Workflow.Url.Folding
import Workflow.Url.Form
import Workflow.Url.Host
import Workflow.Url.Percent
import Workflow.Url.Punycode
import Workflow.Value
import Workflow.Video.Summary
import Workflow.Video.Transcript
import Workflow.World
import Workflow.World.Peers
import Workflow.World.Script
