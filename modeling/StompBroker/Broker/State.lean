import StompBroker.Clock
import StompBroker.Frame.Stream
import StompBroker.Route.Pattern
import StompBroker.Session.Registry
import StompBroker.Session.Sink
import StompBroker.Token.Authenticator

/-!
# The state of the broker

A `Broker` holds the live sessions, the subscription table, the write half of every connection, the
records of the sessions that have left, and the next message id. Its operations append what they do
to the outside to `journal`: every attempted write with its outcome, every attempt to close a
connection, and every answer to a ping. A session whose connection fails during an operation is
taken out at once; `closeLeft` closes its connection after the operation.

`Broker.Setting` is what does not change while the broker runs, and the clock. An application
handler is a function from a message to what is to be published.
-/

set_option autoImplicit false

namespace StompBroker

/-- A client's message to an application endpoint. -/
structure AppMessage where
  session : SessionId
  sender : String
  destination : String
  /-- The values that the endpoint's pattern captured. -/
  captures : List (String × String)
  body : Bytes
  deriving DecidableEq, Repr

/-- What an application endpoint asks the broker to publish. -/
inductive Publication where
  /-- To all subscribers of a destination. -/
  | broadcast (destination : String) (body : Bytes)
  /-- To the private queue of a user. -/
  | toUser (recipient queue : String) (body : Bytes)
  deriving DecidableEq, Repr

/-- What an application endpoint makes of a message. -/
abbrev AppHandler := AppMessage → Except Failure Publication

/-- What the broker did to the outside. -/
inductive Event where
  /-- A frame was written, or could not be. -/
  | wrote (session : SessionId) (version : Version) (frame : Frame) (outcome : WriteOutcome)
  /-- A connection was to be closed; the peer may have seen it. -/
  | closed (session : SessionId) (seen : Bool)
  /-- A ping was answered. -/
  | answered (session : SessionId) (payload : Bytes)
  deriving DecidableEq, Repr

/-- The state of the broker. -/
structure Broker where
  registry : Registry := {}
  table : SubscriptionTable := {}
  sinks : List (SessionId × Sink) := []
  /-- The sessions that have left, as they left. -/
  departed : List Session := []
  /-- The sessions that have left and whose connections are still open. -/
  closing : List SessionId := []
  /-- Behind the largest number of 64 bits, ids begin again at zero. -/
  nextMessageId : UInt64 := 1
  journal : List Event := []

/-- What the broker works with. -/
structure Broker.Setting where
  auth : Authenticator
  clock : Clock
  routes : Routes AppHandler
  writeTimeout : Nat

namespace Broker

/-- The sink of a connection. -/
def sink (broker : Broker) (id : SessionId) : Sink := (broker.sinks.lookup id).getD {}

/-- Puts a sink in the place of a connection's. -/
def putSink (id : SessionId) (sink : Sink) : List (SessionId × Sink) → List (SessionId × Sink)
  | [] => [(id, sink)]
  | (other, kept) :: rest =>
    if other = id then (id, sink) :: rest else (other, kept) :: putSink id sink rest

/-- Changes the sink of a connection. -/
def setSink (broker : Broker) (id : SessionId) (sink : Sink) : Broker :=
  { broker with sinks := putSink id sink broker.sinks }

/-- The record of a session, live or departed. -/
def session? (broker : Broker) (id : SessionId) : Option Session :=
  match broker.registry.get? id with
  | some session => some session
  | none => broker.departed.find? fun session ↦ session.id == id

/-- Appends an event to the journal. -/
def record (broker : Broker) (event : Event) : Broker :=
  { broker with journal := broker.journal ++ [event] }

/-- Writes a frame to a connection: the outcome, and when its sink is free again. -/
def write (broker : Broker) (id : SessionId) (version : Version) (frame : Frame)
    (freeAt deadline : Nat) : WriteOutcome × Nat × Broker :=
  let (outcome, freeAt, sink) := (broker.sink id).write freeAt deadline
  (outcome, freeAt, (broker.setSink id sink).record (.wrote id version frame outcome))

/-- Writes a frame to a session in the version that the session uses. -/
def send (setting : Setting) (broker : Broker) (session : Session) (frame : Frame) :
    WriteOutcome × Broker :=
  let (outcome, _, broker) := broker.write session.id session.version frame 0 setting.writeTimeout
  (outcome, broker)

/-! ### Opening and closing sessions -/

/-- Registers a connection as a session that is not authenticated. -/
def openSession (setting : Setting) (broker : Broker) (id : SessionId) (sink : Sink) : Broker :=
  { broker with
    registry := broker.registry.add { id := id, connectTime := setting.clock.millis }
    sinks := putSink id sink broker.sinks }

/-- Takes a session out of the registry and the table; its connection stays open. -/
def detach (broker : Broker) (id : SessionId) : Bool × Broker :=
  match broker.registry.remove id with
  | (none, _) => (false, broker)
  | (some session, registry) =>
    (true,
      { broker with
        registry := registry
        table := (broker.table.removeSession id).2
        departed := broker.departed ++ [{ session with subscriptions := [], cancelled := true }] })

/-- Closes the connection of a session. -/
def closeSink (broker : Broker) (id : SessionId) : Broker :=
  let (seen, sink) := (broker.sink id).close
  (broker.setSink id sink).record (.closed id seen)

/-- Takes a session out and leaves its connection to `closeLeft`. -/
def retire (broker : Broker) (id : SessionId) : Broker :=
  match broker.detach id with
  | (false, broker) => broker
  | (true, broker) => { broker with closing := broker.closing ++ [id] }

/-- Closes the connections that were left open when their sessions were taken out. -/
def closeLeft (broker : Broker) : Broker :=
  broker.closing.foldl closeSink { broker with closing := [] }

/-- Removes a session everywhere and closes its connection; nothing for one that is not live. -/
def closeSession (broker : Broker) (id : SessionId) : Broker :=
  match broker.detach id with
  | (false, broker) => broker
  | (true, broker) => broker.closeSink id

/-- Closes every live session and tells how many there were. -/
def closeAll (broker : Broker) : Nat × Broker :=
  let ids := broker.registry.sessions.map (·.id)
  (ids.length, ids.foldl closeSession broker)

end Broker

end StompBroker
