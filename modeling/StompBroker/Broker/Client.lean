import StompBroker.Broker.Delivery

/-!
# Frames from clients

`handleFrame` processes one frame of a client and says whether its connection stays open. A client
first has to connect: `handleConnect` agrees on a version and checks a token, the first that is not
empty among three headers. After that a client subscribes, unsubscribes and sends. Whatever breaks
the protocol is answered with an ERROR frame and ends the connection; everything else is confirmed
with a RECEIPT if the client asked for one, after all that its frame caused.

A subscription to a destination that the session may not subscribe to is dropped without an error,
and so is a message that leads nowhere.
-/

set_option autoImplicit false

namespace StompBroker.Broker

/-- The answer to credentials that do not hold. -/
def authenticationFailed : String := "Authentication failed"

/-- The answer to a list of versions without a known one. -/
def unsupportedVersion : String := "Supported protocol versions are 1.0,1.1,1.2"

/-- Sends an ERROR frame to a live session and ends the connection. -/
def reject (setting : Setting) (broker : Broker) (id : SessionId) (message : String)
    (detail : Option String) : Flow × Broker :=
  match broker.registry.get? id with
  | none => (.close, broker)
  | some session => (.close, (broker.send setting session (.error message detail)).2)

/-- What an ERROR frame tells about a failure. -/
def protocolDetail : Failure → String
  | .protocol detail => detail
  | failure => failure.message

/-- Ends the connection because of a failure. -/
def protocolError (setting : Setting) (broker : Broker) (id : SessionId) (failure : Failure) :
    Flow × Broker :=
  broker.reject setting id "Protocol error" (some (protocolDetail failure))

/-- Confirms a frame that asks for it. -/
def sendReceipt (setting : Setting) (broker : Broker) (session : Session) (frame : Frame) :
    Broker :=
  match frame.header? Header.receipt with
  | none => broker
  | some receipt => (broker.send setting session (.receipt receipt)).2

/-! ### Connecting -/

/-- The token in an authorization header. -/
def bearerToken (value : String) : String :=
  Text.trim ((Text.stripStart? "Bearer " value).getD value)

/-- The first token that is not empty. -/
def connectToken? (frame : Frame) : Option String :=
  [(frame.header? Header.authorization).map bearerToken, frame.header? Header.passcode,
    frame.header? Header.login].findSome? fun credential ↦ credential.filter (!·.isEmpty)

/-- Records an accepted handshake: in the session, and under its user. -/
def enrol (broker : Broker) (session : Session) (username : String) (version : Version) :
    Except Failure Broker :=
  let registry := broker.registry.update session.id (·.authenticate username version)
  (registry.bind session.id username).map fun registry ↦ { broker with registry := registry }

/-- Processes the first frame of a session. -/
def handleConnect (setting : Setting) (broker : Broker) (session : Session) (frame : Frame) :
    Flow × Broker :=
  match Version.negotiate (frame.header? Header.acceptVersion) with
  | none => broker.reject setting session.id unsupportedVersion none
  | some version =>
    match (connectToken? frame).map (setting.auth.parse setting.clock) with
    | none | some (.error _) => broker.reject setting session.id authenticationFailed none
    | some (.ok claims) =>
      match broker.enrol session claims.username version with
      | .error _ => (.close, broker)
      | .ok broker =>
        let session := session.authenticate claims.username version
        match broker.send setting session (.connected version session.id.text) with
        | (.written, broker) => (.continue, broker.sendReceipt setting session frame)
        | (_, broker) => (.close, broker)

/-! ### Subscribing and sending -/

/-- The key under which a session subscribes to a destination, if it may. -/
def subscriptionKey? (username destination : String) : Option String :=
  match Destination.parse destination with
  | .topic key | .queue key | .userQueue key => some key
  | .userScoped owner canonical => if owner = username then some canonical else none
  | .app _ | .other _ => none

/-- Processes a SUBSCRIBE frame. -/
def handleSubscribe (broker : Broker) (session : Session) (frame : Frame) :
    Except Failure Broker :=
  match frame.header? Header.id with
  | none => .error (.protocol "SUBSCRIBE requires an id header")
  | some subscription =>
    match frame.header? Header.destination with
    | none => .error (.protocol "SUBSCRIBE requires a destination header")
    | some destination =>
      match subscriptionKey? session.username destination with
      | none => .ok broker
      | some key =>
        match session.subscribe? subscription key with
        | none => .error (.protocol ("duplicate subscription id '" ++ subscription ++ "'"))
        | some subscribed =>
          .ok { broker with
            registry := broker.registry.update session.id fun _ ↦ subscribed
            table := broker.table.add key ⟨session.id, subscription⟩ }

/-- Processes an UNSUBSCRIBE frame. -/
def handleUnsubscribe (broker : Broker) (session : Session) (frame : Frame) :
    Except Failure Broker :=
  match frame.header? Header.id with
  | none => .error (.protocol "UNSUBSCRIBE requires an id header")
  | some subscription =>
    match session.subscriptions.lookup subscription with
    | none => .ok broker
    | some destination =>
      .ok { broker with
        registry := broker.registry.update session.id (·.unsubscribe subscription)
        table := (broker.table.remove destination ⟨session.id, subscription⟩).2 }

/-- Passes a message to the application endpoint of its destination. -/
def dispatch (setting : Setting) (broker : Broker) (session : Session) (destination : String)
    (body : Bytes) : Broker :=
  match setting.routes.resolve? destination with
  | none => broker
  | some (handler, captures) =>
    let message : AppMessage :=
      { session := session.id, sender := session.username, destination, captures, body }
    match handler message with
    | .error _ => broker
    | .ok publication => (broker.publishFor setting publication).2

/-- Processes a SEND frame. -/
def handleSend (setting : Setting) (broker : Broker) (session : Session) (frame : Frame) :
    Except Failure Broker :=
  match frame.header? Header.destination with
  | none => .error (.protocol "SEND requires a destination header")
  | some destination =>
    let contentType := (frame.header? Header.contentType).getD jsonContentType
    match Destination.parse destination with
    | .app path => .ok (broker.dispatch setting session path frame.body)
    | .topic path | .queue path => .ok (broker.publish setting path contentType frame.body).2
    | .userScoped username canonical =>
      .ok (broker.deliverToUser setting username canonical destination contentType frame.body).2
    | .userQueue _ | .other _ => .ok broker

/-! ### All frames -/

/-- A frame that only a server may send. -/
def serverFrame (command : Command) : Failure := .protocol (command.text ++ " is a server frame")

/-- Confirms a processed frame, or ends the connection because of a failure. -/
def settle (setting : Setting) (broker : Broker) (session : Session) (frame : Frame) :
    Except Failure Broker → Flow × Broker
  | .ok broker => (.continue, broker.sendReceipt setting session frame)
  | .error failure => broker.protocolError setting session.id failure

/-- Processes a frame of an authenticated session. -/
def handleAuthenticated (setting : Setting) (broker : Broker) (session : Session) (frame : Frame) :
    Flow × Broker :=
  match frame.command with
  | .subscribe => broker.settle setting session frame (broker.handleSubscribe session frame)
  | .unsubscribe => broker.settle setting session frame (broker.handleUnsubscribe session frame)
  | .send => broker.settle setting session frame (broker.handleSend setting session frame)
  | .disconnect => (.close, broker.sendReceipt setting session frame)
  | .ack | .nack | .begin | .commit | .abort => broker.settle setting session frame (.ok broker)
  | .connect | .stomp =>
    broker.settle setting session frame (.error (.protocol "Already connected"))
  | .connected | .message | .receipt | .error =>
    broker.settle setting session frame (.error (serverFrame frame.command))

/-- Processes one frame of a client. -/
def handleFrame (setting : Setting) (broker : Broker) (id : SessionId) (frame : Frame) :
    Flow × Broker :=
  match broker.registry.get? id with
  | none => (.close, broker)
  | some session =>
    if frame.command.isServerCommand then
      broker.protocolError setting id (serverFrame frame.command)
    else if session.authenticated then broker.handleAuthenticated setting session frame
    else if frame.command.isConnectFamily then broker.handleConnect setting session frame
    else broker.protocolError setting id (.protocol (frame.command.text ++ " before CONNECT"))

end StompBroker.Broker
