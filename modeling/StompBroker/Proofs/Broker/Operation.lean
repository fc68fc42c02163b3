import Mathlib.Logic.Relation
import StompBroker.Broker.Socket
import StompBroker.Proofs.Session.Registry
import StompBroker.Proofs.Session.Table

/-!
# Operations of the broker

An `Operation` is what the service asks of the broker: opening and closing sessions, frames of a
client and the end of its patience, and messages of the server itself. `Broker.run` performs one,
and `Reachable` are the brokers that any sequence of operations leads to, with any sinks, as far as
each of them is allowed; a session is opened under an id that no session ever had. `Later` are the
brokers that such a sequence leads to from a given one.

An operation does two things after each other. It makes at most one `Change` to what the broker
knows of its sessions, and then it gives `Output`: it writes frames, takes sessions out whose
connections failed, and closes connections. All that it writes is decided by the state in which the
output begins: a `Reply` to the client, or a message to a session that is `Addressed`.
-/

set_option autoImplicit false

namespace StompBroker

/-- What the service asks of a broker. -/
inductive Operation where
  | openSession (id : SessionId) (sink : Sink)
  | handleFrame (id : SessionId) (frame : Frame)
  /-- The client sent octets that are no frame. -/
  | refuse (id : SessionId) (cause : CodecError)
  /-- The client did not connect in time. -/
  | timeOut (id : SessionId)
  | answerPing (id : SessionId) (payload : Bytes)
  | broadcast (destination : String) (body : Bytes)
  | sendToUser (recipient : String) (body : Bytes)
  | sendToQueue (recipient queue : String) (body : Bytes)
  | broadcastNotice (body : Bytes)
  | broadcastDictionaryChange (code : String)
  | closeSession (id : SessionId)
  | closeAll
  | closeLeft

namespace Operation

/-- An opened session has an id of its own. -/
def Fresh (broker : Broker) : Operation → Prop
  | openSession id _ => broker.session? id = none
  | _ => True

end Operation

namespace Broker

/-- Performs an operation. -/
def run (setting : Setting) (broker : Broker) : Operation → Broker
  | .openSession id sink => broker.openSession setting id sink
  | .handleFrame id frame => (broker.handleFrame setting id frame).2
  | .refuse id cause => Socket.refuse setting id cause broker
  | .timeOut id => (broker.reject setting id Socket.connectTimeout none).2
  | .answerPing id payload => broker.record (.answered id payload)
  | .broadcast destination body => (broker.broadcast setting destination body).2
  | .sendToUser recipient body => (broker.sendToUser setting recipient body).2
  | .sendToQueue recipient queue body => (broker.sendToQueue setting recipient queue body).2
  | .broadcastNotice body => (broker.broadcastNotice setting body).2
  | .broadcastDictionaryChange code => (broker.broadcastDictionaryChange setting code).2
  | .closeSession id => broker.closeSession id
  | .closeAll => broker.closeAll.2
  | .closeLeft => broker.closeLeft

/-- The brokers that allowed operations lead to. -/
inductive Reachable (allowed : Setting → Broker → Operation → Prop) : Broker → Prop
  | start : Reachable allowed {}
  | step {setting : Setting} {broker : Broker} {operation : Operation} :
    Reachable allowed broker → operation.Fresh broker → allowed setting broker operation →
      Reachable allowed (broker.run setting operation)

/-- The brokers that allowed operations lead to from here. -/
inductive Later (allowed : Setting → Broker → Operation → Prop) (broker : Broker) : Broker → Prop
  | refl : Later allowed broker broker
  | step {setting : Setting} {later : Broker} {operation : Operation} :
    Later allowed broker later → operation.Fresh later → allowed setting later operation →
      Later allowed broker (later.run setting operation)

/-- Operations of any kind. -/
abbrev Anything : Setting → Broker → Operation → Prop := fun _ _ _ ↦ True

theorem Reachable.later {allowed : Setting → Broker → Operation → Prop} {broker later : Broker}
    (h : Reachable allowed broker) (hlater : Later allowed broker later) :
    Reachable allowed later := by
  induction hlater with
  | refl => exact h
  | step _ hfresh hallowed ih => exact .step ih hfresh hallowed

/-! ### What an operation changes -/

/-- The one change that an operation may make to the sessions and their subscriptions. -/
inductive Change (setting : Setting) (operation : Operation) (broker : Broker) :
    Broker → Prop
  | none : Change setting operation broker broker
  | opened {id : SessionId} {sink : Sink} :
    operation = .openSession id sink → broker.session? id = Option.none →
      Change setting operation broker (broker.openSession setting id sink)
  | enrolled {session : Session} {frame : Frame} {version : Version} {token : String}
    {claims : Claims} {after : Broker} :
    broker.registry.get? session.id = some session → session.authenticated = false →
      operation = .handleFrame session.id frame →
        frame.command = .connect ∨ frame.command = .stomp →
        Version.negotiate (frame.header? Header.acceptVersion) = some version →
          connectToken? frame = some token → setting.auth.parse setting.clock token = .ok claims →
            broker.enrol session claims.username version = .ok after →
              Change setting operation broker after
  | subscribed {session subscribed : Session} {frame : Frame}
    {subscription destination key : String} :
    broker.registry.get? session.id = some session → session.authenticated = true →
      operation = .handleFrame session.id frame → frame.header? Header.id = some subscription →
        frame.header? Header.destination = some destination →
          subscriptionKey? session.username destination = some key →
            session.subscribe? subscription key = some subscribed →
              Change setting operation broker
                { broker with
                  registry := broker.registry.update session.id fun _ ↦ subscribed
                  table := broker.table.add key ⟨session.id, subscription⟩ }
  | unsubscribed {session : Session} {frame : Frame} {subscription key : String} :
    broker.registry.get? session.id = some session → session.authenticated = true →
      operation = .handleFrame session.id frame → frame.header? Header.id = some subscription →
        session.subscriptions.lookup subscription = some key →
          Change setting operation broker
            { broker with
              registry := broker.registry.update session.id (·.unsubscribe subscription)
              table := (broker.table.remove key ⟨session.id, subscription⟩).2 }

/-! ### What an operation gives out -/

/-- What ERROR frames say. -/
def refusals : List String :=
  [unsupportedVersion, authenticationFailed, "Protocol error", Socket.connectTimeout]

/-- A frame that answers the client of a session. -/
inductive Reply (operation : Operation) (session : Session) : Frame → Prop
  | connected : Reply operation session (.connected session.version session.id.text)
  | receipt {frame : Frame} {receipt : String} :
    operation = .handleFrame session.id frame → frame.header? Header.receipt = some receipt →
      Reply operation session (.receipt receipt)
  | error {message : String} (detail : Option String) :
    message ∈ refusals → Reply operation session (.error message detail)

/-- A session subscribed to a message with this destination: to the destination itself, or to the
private queue that it names for the session's user. -/
def Addressed (broker : Broker) (session : Session) (destination subscription : String) : Prop :=
  ∃ key, (key, ⟨session.id, subscription⟩) ∈ broker.table.entries ∧
    (destination = key ∨
      ∃ username queue, key = userQueue queue ∧ destination = userDestination username queue ∧
        broker.registry.Listed username session.id)

/-- One act of output, in an operation whose output begins at `origin`. -/
inductive Output (setting : Setting) (operation : Operation) (origin : Broker) :
    Broker → Broker → Prop
  | replied {broker : Broker} {session : Session} {frame : Frame} :
    origin.registry.get? session.id = some session → Reply operation session frame →
      Output setting operation origin broker (broker.send setting session frame).2
  | delivered {broker : Broker} {session : Session} {destination subscription : String}
    (contentType : String) (body : Bytes) (freeAt : Nat) :
    origin.registry.get? session.id = some session →
      Addressed origin session destination subscription →
        Output setting operation origin broker
          ({ broker with nextMessageId := broker.nextMessageId + 1 }.write session.id
            session.version
            (.message destination subscription (toString broker.nextMessageId) contentType body)
            freeAt setting.writeTimeout).2.2
  | detached {broker : Broker} (id : SessionId) :
    Output setting operation origin broker (broker.detach id).2
  | postponed {broker : Broker} (closing : List SessionId) :
    Output setting operation origin broker { broker with closing }
  | closed {broker : Broker} (id : SessionId) :
    Output setting operation origin broker (broker.closeSink id)
  | answered {broker : Broker} (id : SessionId) (payload : Bytes) :
    Output setting operation origin broker (broker.record (.answered id payload))

/-- Any number of acts of output. -/
abbrev Outputs (setting : Setting) (operation : Operation) (origin : Broker) :
    Broker → Broker → Prop :=
  Relation.ReflTransGen (Output setting operation origin)

end Broker

end StompBroker
