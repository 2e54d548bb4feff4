import ChatRouting.Codec.Event
import ChatRouting.Codec.Keys
import ChatRouting.Host.Step
import ChatRouting.Main
import ChatRouting.Receipt.Book
import ChatRouting.Proofs.Table
import ChatRouting.Proofs.Json.Reading
import ChatRouting.Proofs.Json.Decoding
import ChatRouting.Proofs.Text
import ChatRouting.Proofs.Bytes.Base64
import ChatRouting.Proofs.Time.Calendar
import ChatRouting.Proofs.Time.Timestamp
import ChatRouting.Proofs.Codec
import ChatRouting.Proofs.Callbacks
import ChatRouting.Proofs.KeyRing
import ChatRouting.Proofs.KeyRing.LastWrite
import ChatRouting.Proofs.Session.Order
import ChatRouting.Proofs.Session.Run
import ChatRouting.Proofs.Session.Ledger
import ChatRouting.Proofs.Session.Newest
import ChatRouting.Proofs.Subscribers
import ChatRouting.Proofs.Redaction
import ChatRouting.Proofs.Receipt.Cell
import ChatRouting.Proofs.Receipt.Book
import ChatRouting.Proofs.Endpoint.Change
import ChatRouting.Proofs.Endpoint.Joins
import ChatRouting.Proofs.Endpoint.Opening
import ChatRouting.Proofs.Conversation
import ChatRouting.Proofs.Endpoint.Plain
import ChatRouting.Proofs.Endpoint.Beside
import ChatRouting.Proofs.Endpoint.Agreement
import ChatRouting.Proofs.Endpoint.Origin
import ChatRouting.Proofs.Endpoint.Requests
import ChatRouting.Proofs.Endpoint.Redaction
import ChatRouting.Proofs.Host.Quiet
import ChatRouting.Proofs.Host.Delivery
import ChatRouting.Proofs.Host.Reentrance
import ChatRouting.Proofs.Host.Serialized
import ChatRouting.Proofs.Host.Addressing
import ChatRouting.Proofs.Host.Informed
import ChatRouting.Proofs.Host.JoinHistory
import ChatRouting.Proofs.Host.Joining
import ChatRouting.Proofs.Host.Classification
import ChatRouting.Proofs.Host.Moments
import ChatRouting.Proofs.Host.Numbers
import ChatRouting.Proofs.Host.Inside
import ChatRouting.Proofs.Host.Asking
import ChatRouting.Proofs.Host.Turns
import ChatRouting.Proofs.Host.Held
import ChatRouting.Proofs.Host.Plain
import ChatRouting.Proofs.Host.SelfSession
import ChatRouting.Proofs.Host.FirstMessage
import ChatRouting.Proofs.Host.Convergence
import ChatRouting.Proofs.Host.Waiting
import ChatRouting.Proofs.Host.Draining
import ChatRouting.Proofs.Host.Subscriptions
import ChatRouting.Proofs.Host.LocalId
import ChatRouting.Proofs.Host.Redaction
import ChatRouting.Proofs.Script.Secrecy
import ChatRouting.Proofs.Script.Reading
import ChatRouting.Proofs.Script.Stopping
import ChatRouting.Proofs.Host.Refusal
import ChatRouting.Proofs.Json.Indented
import ChatRouting.Proofs.CommandLine.Identity
import ChatRouting.Proofs.Report
import ChatRouting.Proofs.Host.Beside
import ChatRouting.Proofs.Marked
import ChatRouting.Proofs.Bystanders
import ChatRouting.Proofs.Host.Isolation
import ChatRouting.Proofs.Profile
import ChatRouting.Proofs.CommandLine.Lifecycle
import ChatRouting.Proofs.Host.FanOut
import ChatRouting.Proofs.Session.Shape
import ChatRouting.Proofs.Host.Lost
import ChatRouting.Proofs.Host.SessionShape
import ChatRouting.Proofs.Script.Keys
