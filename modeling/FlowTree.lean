import FlowTree.Block.Basic
import FlowTree.Block.Condition
import FlowTree.Block.GenerateText
import FlowTree.Block.ManipulateImage
import FlowTree.Block.Request
import FlowTree.Block.Respond
import FlowTree.Block.SendEmail
import FlowTree.Block.Service
import FlowTree.Block.Text
import FlowTree.Command.Arguments
import FlowTree.Command.Basic
import FlowTree.Command.Clock
import FlowTree.Encoding.Base64
import FlowTree.Encoding.Scheme
import FlowTree.Expr.Eval
import FlowTree.Expr.Grammar
import FlowTree.Expr.Limits
import FlowTree.Expr.Operators
import FlowTree.Expr.Syntax
import FlowTree.Files.Path
import FlowTree.Files.Tree
import FlowTree.Flow.Basic
import FlowTree.Flow.Node
import FlowTree.Http.Domain.Basic
import FlowTree.Http.Domain.Direction
import FlowTree.Http.Domain.Joiner
import FlowTree.Http.Domain.MappingTable
import FlowTree.Http.Exchange
import FlowTree.Http.Host
import FlowTree.Http.Punycode
import FlowTree.Http.Url.Basic
import FlowTree.Http.Url.Path
import FlowTree.Http.Url.Reader
import FlowTree.Image.Basic
import FlowTree.Image.Inflate
import FlowTree.Image.Png
import FlowTree.Json.Basic
import FlowTree.Json.Fields
import FlowTree.Json.Printer
import FlowTree.Json.Reader
import FlowTree.Json.Render
import FlowTree.Number.Decimal
import FlowTree.Number.Dyadic
import FlowTree.Number.Layout
import FlowTree.Number.Shortest
import FlowTree.Proofs.Expr.Bounds
import FlowTree.Proofs.Expr.Faults
import FlowTree.Proofs.Expr.Language
import FlowTree.Proofs.Expr.LimitScan
import FlowTree.Proofs.Expr.Nesting
import FlowTree.Proofs.Expr.Numerals
import FlowTree.Proofs.Expr.Operands
import FlowTree.Proofs.Expr.Reading
import FlowTree.Proofs.Expr.Texts
import FlowTree.Proofs.Expr.Tokens
import FlowTree.Proofs.Expr.Values
import FlowTree.Proofs.Flow.Height
import FlowTree.Proofs.Http.Exchange
import FlowTree.Proofs.Json.Nesting
import FlowTree.Proofs.Number.Doubles
import FlowTree.Proofs.Number.Exact
import FlowTree.Proofs.Number.Render
import FlowTree.Proofs.Number.Whole
import FlowTree.Proofs.Run.Attempts
import FlowTree.Proofs.Run.Branches
import FlowTree.Proofs.Run.Calls
import FlowTree.Proofs.Run.Catalogue
import FlowTree.Proofs.Run.Comparisons
import FlowTree.Proofs.Run.Copies
import FlowTree.Proofs.Run.Decisions
import FlowTree.Proofs.Run.Depth
import FlowTree.Proofs.Run.Effects
import FlowTree.Proofs.Run.Failures
import FlowTree.Proofs.Run.Intake
import FlowTree.Proofs.Run.Keys
import FlowTree.Proofs.Run.Machine
import FlowTree.Proofs.Run.Names
import FlowTree.Proofs.Run.Outbound
import FlowTree.Proofs.Run.Places
import FlowTree.Proofs.Run.Quoting
import FlowTree.Proofs.Run.Response
import FlowTree.Proofs.Run.Results
import FlowTree.Proofs.Run.Searches
import FlowTree.Proofs.Run.Turns
import FlowTree.Proofs.Run.Unregistered
import FlowTree.Proofs.Run.Visits
import FlowTree.Proofs.Server.Fetches
import FlowTree.Proofs.Server.Overlap
import FlowTree.Proofs.Template.Brackets
import FlowTree.Proofs.Template.Fields
import FlowTree.Proofs.Template.Reads
import FlowTree.Proofs.Template.Resolution
import FlowTree.Proofs.Template.Segments
import FlowTree.Proofs.Template.Solutions
import FlowTree.Proofs.Template.Spans
import FlowTree.Proofs.Template.Stops
import FlowTree.Proofs.Text.Blank
import FlowTree.Proofs.Text.Search
import FlowTree.Run.Walk
import FlowTree.Server.Cache
import FlowTree.Server.Router
import FlowTree.Server.Store
import FlowTree.Settings.Basic
import FlowTree.Settings.Location
import FlowTree.Settings.Reader
import FlowTree.State.Context
import FlowTree.State.Request
import FlowTree.Template.Helper
import FlowTree.Template.Path
import FlowTree.Text.Blank
import FlowTree.Text.Case
import FlowTree.Text.CaseTable
import FlowTree.Text.Letters
import FlowTree.Text.Marks
import FlowTree.Text.Normal
import FlowTree.Text.NormalTable
import FlowTree.Text.Search
import FlowTree.Text.Table
import FlowTree.Text.Utf8
import FlowTree.Toml.Reader
import FlowTree.Toml.Scalar
import FlowTree.Toml.Value
import FlowTree.Main
import FlowTree.Proofs.Encoding.Base64
import FlowTree.Proofs.Encoding.Scheme
import FlowTree.Proofs.Run.Transcoding
import FlowTree.Proofs.Flow.Shape
import FlowTree.Proofs.Server.Paths
import FlowTree.Proofs.Server.Requests
import FlowTree.Proofs.Server.Tenants
import FlowTree.Proofs.Run.Envelope
import FlowTree.Proofs.Server.Answers
import FlowTree.Proofs.Run.Splitting
import FlowTree.Proofs.Run.Payload
import FlowTree.Proofs.Encoding.Strict
import FlowTree.Proofs.Expr.Overflow
