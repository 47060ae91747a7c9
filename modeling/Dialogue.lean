import Dialogue.Text.Alphanumeric
import Dialogue.Text.Blank
import Dialogue.Text.Utf8
import Dialogue.Text.Quoted
import Dialogue.Number.Shortest
import Dialogue.Json.Printer
import Dialogue.Json.Parser
import Dialogue.Json.Expected
import Dialogue.Time.Span
import Dialogue.Time.Timestamp
import Dialogue.Tool.Arithmetic
import Dialogue.Transcript
import Dialogue.Completion
import Dialogue.Sampling
import Dialogue.RunContext
import Dialogue.Agent.Run
import Dialogue.Backend.Script
import Dialogue.Chat.Request
import Dialogue.Chat.Response
import Dialogue.Settings.Basic
import Dialogue.Agent.Assembly
import Dialogue.Session
import Dialogue.Http.Exchange
import Dialogue.ToolServer.Client
import Dialogue.Startup
import Dialogue.Main
import Dialogue.Http.Domain.Excluded
import Dialogue.Http.Domain.Folding
import Dialogue.Text.CombiningClass
import Dialogue.Text.Composite
import Dialogue.Text.Direction
import Dialogue.Text.Joining
import Dialogue.Text.Mark
import Dialogue.Text.NormalForm
import Dialogue.Proofs.Tool.Calls
import Dialogue.Proofs.Tool.Order
import Dialogue.Proofs.Tool.Failure
import Dialogue.Proofs.Tool.Refusal
import Dialogue.Proofs.Agent.Reply
import Dialogue.Proofs.Agent.Rounds
import Dialogue.Proofs.Agent.Shape
import Dialogue.Proofs.Agent.Failing
import Dialogue.Proofs.Agent.Rehearsal
import Dialogue.Proofs.Agent.Shown
import Dialogue.Proofs.Agent.Limit
import Dialogue.Proofs.Chat.Groups
import Dialogue.Proofs.Startup
import Dialogue.Proofs.Chat.Offers
import Dialogue.Proofs.Json.Lexemes
import Dialogue.Proofs.Json.ReadBack
import Dialogue.Proofs.Chat.ReadBack
import Dialogue.Proofs.Json.Records
import Dialogue.Proofs.Text.Utf8
import Dialogue.Proofs.Text.Order
import Dialogue.Proofs.Agent.Interrupted
import Dialogue.Proofs.Session.Lines
import Dialogue.Proofs.Session.Turns
import Dialogue.Proofs.Agent.InterruptedRehearsal
import Dialogue.Proofs.Session.Isolation
import Dialogue.Proofs.Http.Exchange
import Dialogue.Proofs.ToolServer.Requests
import Dialogue.Proofs.ToolServer.Sessions
import Dialogue.Proofs.Http.Hosts
import Dialogue.Proofs.ToolServer.Search
import Dialogue.Proofs.ToolServer.Discovery
import Dialogue.Proofs.Agent.Assembly
import Dialogue.Proofs.Session.Notices
import Dialogue.Proofs.Azure.TokenStore
import Dialogue.Proofs.Time.Calendar
import Dialogue.Proofs.Time.ReadBack
import Dialogue.Proofs.Json.Objects
import Dialogue.Proofs.Json.Alike
import Dialogue.Proofs.Json.Spacing
import Dialogue.Proofs.Message.ReadBack
import Dialogue.Proofs.Agent.Dispatch
import Dialogue.Proofs.Tool.History
import Dialogue.Proofs.Tool.Pending
import Dialogue.Proofs.ToolServer.Echo
import Dialogue.Proofs.Json.Grammar
import Dialogue.Proofs.ToolServer.EventStream
import Dialogue.Proofs.ToolServer.Answers
import Dialogue.Proofs.Number.Count
import Dialogue.Proofs.Settings.Rules
import Dialogue.Proofs.ToolServer.Paging
import Dialogue.Proofs.ToolServer.Replies
import Dialogue.Proofs.ToolServer.Cursors
import Dialogue.Proofs.Json.Numbers
import Dialogue.Proofs.Json.Strings
import Dialogue.Proofs.Json.Spelling
import Dialogue.Proofs.Json.Shapes
import Dialogue.Proofs.Chat.Parsing
import Dialogue.Proofs.Settings.Alike
import Dialogue.Proofs.Tool.Arithmetic
import Dialogue.Proofs.Azure.Expiry
import Dialogue.Proofs.Json.Printed
import Dialogue.Proofs.Session.JsonLines
import Dialogue.Proofs.Settings.Credentials
import Dialogue.Proofs.ToolServer.Observations
import Dialogue.Proofs.Azure.Answers
import Dialogue.Proofs.Json.Forms
