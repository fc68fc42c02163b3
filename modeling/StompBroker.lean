import StompBroker.Broker.Overview
import StompBroker.Broker.Transcript
import StompBroker.Launch.Report
import StompBroker.Main
import StompBroker.Service.Description
import StompBroker.Service.Report
import StompBroker.Service.Router
import StompBroker.Service.Sockets
import StompBroker.Settings.Load
import StompBroker.Proofs.Frame.Escape
import StompBroker.Proofs.Frame.Grammar
import StompBroker.Proofs.Frame.RoundTrip
import StompBroker.Proofs.Frame.Prefix
import StompBroker.Proofs.Frame.Stream
import StompBroker.Proofs.Session.Rows
import StompBroker.Proofs.Session.Registry
import StompBroker.Proofs.Session.Table
import StompBroker.Proofs.Session.Triples
import StompBroker.Proofs.Broker.Operation
import StompBroker.Proofs.Broker.Step
import StompBroker.Proofs.Broker.Consistent
import StompBroker.Proofs.Broker.Journal
import StompBroker.Proofs.Text.Decimal
import StompBroker.Proofs.Text.Boundary
import StompBroker.Proofs.Frame.Server
import StompBroker.Proofs.Frame.Canonical
import StompBroker.Proofs.Frame.Pairs
import StompBroker.Proofs.Frame.Cursor
import StompBroker.Proofs.Session.History
import StompBroker.Proofs.Broker.Written
import StompBroker.Proofs.Broker.Subscriptions
import StompBroker.Proofs.Token.Web
import StompBroker.Proofs.Broker.Online
import StompBroker.Proofs.Broker.Access
import StompBroker.Proofs.Broker.Numbering
import StompBroker.Proofs.Broker.Fanout
import StompBroker.Proofs.Broker.Private
import StompBroker.Proofs.Broker.Cleanup
import StompBroker.Proofs.Broker.Publishers
import StompBroker.Proofs.Broker.Connection
import StompBroker.Proofs.Broker.Buffer
import StompBroker.Proofs.Broker.Teardown
import StompBroker.Proofs.Broker.Commute
import StompBroker.Proofs.Token.Revocation
import StompBroker.Proofs.RateLimit.Limiter
import StompBroker.Proofs.RateLimit.Sweep
import StompBroker.Proofs.Service.Transaction
import StompBroker.Proofs.Service.Admission
import StompBroker.Proofs.Broker.Label
import StompBroker.Proofs.Broker.Answer
import StompBroker.Proofs.Broker.Flagged
import StompBroker.Proofs.Http.RequestLog
import StompBroker.Proofs.Service.Routine
import StompBroker.Proofs.Service.Credentials
import StompBroker.Proofs.Service.Publication
import StompBroker.Proofs.Service.Delivery
import StompBroker.Proofs.Service.Visit
import StompBroker.Proofs.Service.Traffic
import StompBroker.Proofs.Service.Backlog
import StompBroker.Proofs.Route.Pattern
import StompBroker.Proofs.Json.Payload
import StompBroker.Proofs.Http.Form
import StompBroker.Proofs.Service.Reading
import StompBroker.Proofs.Service.Paging
import StompBroker.Proofs.Service.Login
import StompBroker.Proofs.Password
