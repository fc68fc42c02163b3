import StompBroker.Broker.State
import StompBroker.Destination
import StompBroker.Json.Payload

/-!
# Delivering messages

A message goes to every subscription under its destination's key. `deliver` takes the recipients as
they are when it starts, gives each of them the next message id, and writes to all of them at the
same time: writes to different sessions do not wait for each other, and writes to one session go in
order (`Fanout.busy` says until when each session is busy). A session with a failed write is taken
out after all writes are done.

A private message goes to the subscriptions under the shared key of the queue, as far as they belong
to sessions of the recipient, and is labelled with the recipient's own destination.
-/

set_option autoImplicit false

namespace StompBroker

namespace Topic

/-- Where notices to everybody go. -/
def notice : String := "/topic/notice"

/-- Where changes of dictionaries are announced. -/
def dictionary : String := "/topic/dict"

/-- The private queue of greetings. -/
def greeting : String := "/queue/greeting"

/-- The private queue of notices. -/
def message : String := "/queue/message"

end Topic

namespace Broker

/-- Where a delivery stands. -/
structure Fanout where
  broker : Broker
  /-- Until when each session is busy with earlier writes. -/
  busy : List (SessionId × Nat) := []
  delivered : Nat := 0
  /-- The sessions of the writes that failed. -/
  failed : List SessionId := []

/-- Writes the message to one subscription of a live session. -/
def deliverTo (setting : Setting) (destination contentType : String) (body : Bytes)
    (fanout : Fanout) (target : Session × String) : Fanout :=
  let (session, subscription) := target
  let broker := fanout.broker
  let frame :=
    Frame.message destination subscription (toString broker.nextMessageId) contentType body
  let (outcome, freeAt, broker) :=
    { broker with nextMessageId := broker.nextMessageId + 1 }.write session.id session.version frame
      ((fanout.busy.lookup session.id).getD 0) setting.writeTimeout
  let busy := (session.id, freeAt) :: fanout.busy
  match outcome with
  | .written => { fanout with broker, busy, delivered := fanout.delivered + 1 }
  | .refused _ | .timedOut => { fanout with broker, busy, failed := fanout.failed ++ [session.id] }

/-- The live sessions of subscribers, with the ids of the subscriptions. -/
def targets (registry : Registry) (subscribers : List Subscriber) : List (Session × String) :=
  subscribers.filterMap fun subscriber ↦
    (registry.get? subscriber.session).map fun session ↦ (session, subscriber.subscription)

/-- Delivers a message to subscribers and tells how many writes succeeded. -/
def deliver (setting : Setting) (broker : Broker) (subscribers : List Subscriber)
    (destination contentType : String) (body : Bytes) : Nat × Broker :=
  let fanout := (targets broker.registry subscribers).foldl
    (deliverTo setting destination contentType body) { broker := broker }
  (fanout.delivered, fanout.failed.foldl retire fanout.broker)

/-- Delivers a message to all subscribers of a destination. -/
def publish (setting : Setting) (broker : Broker) (destination contentType : String)
    (body : Bytes) : Nat × Broker :=
  broker.deliver setting (broker.table.subscribers destination) destination contentType body

/-- Delivers a JSON body to all subscribers of a destination. -/
def broadcast (setting : Setting) (broker : Broker) (destination : String) (body : Bytes) :
    Nat × Broker :=
  broker.publish setting destination jsonContentType body

/-- Delivers a message to the recipient's subscriptions under the shared key of a private queue. -/
def deliverToUser (setting : Setting) (broker : Broker)
    (recipient canonical label contentType : String) (body : Bytes) : Nat × Broker :=
  let owned := (broker.registry.sessionsFor recipient).map (·.id)
  broker.deliver setting
    ((broker.table.subscribers canonical).filter fun subscriber ↦ subscriber.session ∈ owned)
    label contentType body

/-- Delivers a JSON body to a private queue of a user. -/
def sendToQueue (setting : Setting) (broker : Broker) (recipient queue : String) (body : Bytes) :
    Nat × Broker :=
  broker.deliverToUser setting recipient (userQueue queue) (userDestination recipient queue)
    jsonContentType body

/-- Delivers a greeting to a user. -/
def sendToUser (setting : Setting) (broker : Broker) (recipient : String) (body : Bytes) :
    Nat × Broker :=
  broker.sendToQueue setting recipient Topic.greeting body

/-- Delivers a notice to everybody who subscribed to notices. -/
def broadcastNotice (setting : Setting) (broker : Broker) (body : Bytes) : Nat × Broker :=
  broker.broadcast setting Topic.notice body

/-- The announcement that a dictionary has changed. -/
def dictionaryChange (code : String) : Bytes := Json.write (.object [("dictCode", .string code)])

/-- Announces that a dictionary has changed. -/
def broadcastDictionaryChange (setting : Setting) (broker : Broker) (code : String) :
    Nat × Broker :=
  broker.broadcast setting Topic.dictionary (dictionaryChange code)

/-- Publishes what an application endpoint asks for. -/
def publishFor (setting : Setting) (broker : Broker) : Publication → Nat × Broker
  | .broadcast destination body => broker.broadcast setting destination body
  | .toUser recipient queue body => broker.sendToQueue setting recipient queue body

end Broker

namespace AppHandler

/-- Passes a message on to everybody. -/
def toAll : AppHandler := fun message ↦
  .ok (.broadcast Topic.notice (Json.payload message.body))

/-- Greets the user whom the destination names. -/
def toUser : AppHandler := fun message ↦
  match message.captures.lookup "username" with
  | some recipient => .ok (.toUser recipient Topic.greeting (Json.payload message.body))
  | none => .error (.badRequest "missing recipient")

/-- The endpoints that every broker has. -/
def defaults : Routes AppHandler :=
  (Routes.registerAll .empty
    [("/app/sendToAll", toAll), ("/app/sendToUser/\x7busername\x7d", toUser)]).2

end AppHandler

end StompBroker
