import TangleGateway.Text.Utf8
import TangleGateway.Text.Blank
import TangleGateway.Text.DecimalDigit
import TangleGateway.Text.Quoted
import TangleGateway.Number.Integer
import TangleGateway.Number.Shortest
import TangleGateway.Value.Render
import TangleGateway.Json.Reader
import TangleGateway.Json.Writer
import TangleGateway.Trytes
import TangleGateway.Fault.Class
import TangleGateway.Reply.Shape
import TangleGateway.Fault.Basic
import TangleGateway.Reply.Basic
import TangleGateway.Outcome
import TangleGateway.Command.Sharing
import TangleGateway.Config.Environment
import TangleGateway.Http.Library
import TangleGateway.Http.Client
import TangleGateway.Transport
import TangleGateway.Gateway.Session
import TangleGateway.Proofs.Except
import TangleGateway.Proofs.Gateway.Dispatch
import TangleGateway.Proofs.Gateway.Reachable
import TangleGateway.Proofs.Gateway.Requests
import TangleGateway.Proofs.Gateway.Validation
import TangleGateway.Proofs.Fault.Message
import TangleGateway.Proofs.Number.Integer
import TangleGateway.Proofs.Outcome.Classification
import TangleGateway.Proofs.Gateway.Failures
import TangleGateway.Proofs.Value.Entries
import TangleGateway.Proofs.Json.RoundTrip
import TangleGateway.Proofs.Text.Utf8
import TangleGateway.Proofs.Json.Bytes
import TangleGateway.Proofs.Command.Query
import TangleGateway.Proofs.Http.Documented
import TangleGateway.Proofs.Http.Client
import TangleGateway.Proofs.Gateway.Posting
import TangleGateway.Proofs.Reply.Encoding
import TangleGateway.Proofs.Fault.Class
import TangleGateway.Proofs.Gateway.Independence
import TangleGateway.Proofs.Gateway.Escape
import TangleGateway.Proofs.Gateway.Ownership
import TangleGateway.Proofs.Outcome.Wholeness
import TangleGateway.Proofs.Gateway.Identifiers
import TangleGateway.Proofs.Text.ContentType
import TangleGateway.Proofs.Command.Payload
import TangleGateway.Proofs.Gateway.ErrorText
import TangleGateway.Proofs.Gateway.Logging
import TangleGateway.Proofs.Reply.Schema
import TangleGateway.Proofs.Config.PortNumeral
import TangleGateway.Proofs.Config.Environment
import TangleGateway.Proofs.Gateway.FromEnvironment
import TangleGateway.Proofs.Gateway.AddressSearch
import TangleGateway.Proofs.Json.Members
import TangleGateway.Proofs.Reply.Agreement
import TangleGateway.Proofs.Value.Iteration
import TangleGateway.Proofs.Command.Snapshot
import TangleGateway.Proofs.Request.Headers
