import StompBroker.Broker.Client
import StompBroker.Frame.Stream

/-!
# Sessions over WebSocket

A `Socket` is the reading half of a session: a codec and the octets that wait for the rest of their
frame. `Socket.step` says what an `Arrival` does to it. A socket ends when its peer or its session
does, when a frame ends it, or when its deadline passes before the client has ever been
authenticated; `Socket.serve` then closes the session.
-/

set_option autoImplicit false

namespace StompBroker

/-- What a socket waits for. -/
inductive Arrival where
  /-- A message of the client, of text or not. -/
  | message (data : Bytes)
  | ping (payload : Bytes)
  | pong
  /-- The client said that it ends, or was cut off. -/
  | ended
  /-- The time for the handshake is over. -/
  | deadline
  /-- The session was closed. -/
  | shutdown
  deriving DecidableEq, Repr

/-- The reading half of a session. -/
structure Socket where
  id : SessionId
  codec : Codec
  buffer : Bytes := []
  /-- The client was authenticated when its last message had been read. -/
  authenticated : Bool := false

namespace Socket

/-- The reading half of a new session. -/
def fresh (id : SessionId) (maxFrameBytes : Nat) : Socket :=
  { id, codec := { version := .v12, maxFrameBytes } }

/-- The answer to a client that does not connect in time. -/
def connectTimeout : String := "Connect timeout"

/-- Processes a frame, and tells which version the session uses from now on. -/
def dispatch (setting : Broker.Setting) (id : SessionId) (frame : Frame) (broker : Broker) :
    Flow × Option Version × Broker :=
  let (flow, broker) := broker.handleFrame setting id frame
  let version :=
    if frame.command.isConnectFamily then (broker.registry.get? id).map (·.version) else none
  (flow, version, broker)

/-- Refuses octets that are no frame. -/
def refuse (setting : Broker.Setting) (id : SessionId) (cause : CodecError) (broker : Broker) :
    Broker :=
  (broker.protocolError setting id (.protocol cause.message)).2

/-- Reads a message of the client. -/
def read (setting : Broker.Setting) (socket : Socket) (data : Bytes) (broker : Broker) :
    Flow × Socket × Broker :=
  let (flow, codec, buffer, broker) :=
    socket.codec.drain (dispatch setting socket.id) (refuse setting socket.id)
      (socket.buffer ++ data) broker
  let authenticated := socket.authenticated ||
    (broker.registry.get? socket.id).elim false (·.authenticated)
  (flow, { socket with codec, buffer, authenticated }, broker)

/-- What an arrival does. -/
def step (setting : Broker.Setting) (socket : Socket) (broker : Broker) :
    Arrival → Flow × Socket × Broker
  | .message data =>
    if socket.codec.maxFrameBytes < data.length then (.close, socket, broker)
    else socket.read setting data broker
  | .ping payload => (.continue, socket, broker.record (.answered socket.id payload))
  | .pong => (.continue, socket, broker)
  | .ended | .shutdown => (.close, socket, broker)
  | .deadline =>
    if socket.authenticated then (.continue, socket, broker)
    else (.close, socket, (broker.reject setting socket.id connectTimeout none).2)

/-- Processes an arrival and closes the session if the socket has ended. -/
def serve (setting : Broker.Setting) (socket : Socket) (broker : Broker) (arrival : Arrival) :
    Option Socket × Broker :=
  match socket.step setting broker arrival with
  | (.continue, socket, broker) => (some socket, broker)
  | (.close, socket, broker) => (none, broker.closeSession socket.id)

end Socket

end StompBroker
