import StompBroker.Broker.Delivery
import StompBroker.Store.Tables

/-!
# Background jobs

What a request leaves behind is done after it is answered: the entry in the log of requests, and the
delivery of a notice. A `JobQueue` takes jobs in the order in which they come, as long as it is not
full and not stopped; `submit` tells whether a job was taken, and one that was not is lost.
-/

set_option autoImplicit false

namespace StompBroker

/-- A notice as its readers get it. -/
structure NoticeMessage where
  id : Int
  title : String
  content : String
  publisher : String
  publishTime : Int
  deriving DecidableEq, Repr

/-- The notice as the body of a message. -/
def NoticeMessage.body (notice : NoticeMessage) : Bytes :=
  Json.write (.object [("id", .ofInt notice.id), ("title", .string notice.title),
    ("content", .string notice.content), ("publisher", .string notice.publisher),
    ("publishTime", .ofInt notice.publishTime)])

/-- Whom a notice is for. -/
inductive Audience where
  | all
  | users (names : List String)
  deriving DecidableEq, Repr

/-- Something to be done after a request. -/
inductive Job where
  | logAccess (entry : AccessEntry)
  | deliverNotice (notice : NoticeMessage) (audience : Audience)
  deriving DecidableEq, Repr

/-- The jobs that wait. -/
structure JobQueue where
  capacity : Nat
  waiting : List Job := []
  /-- Nothing is taken any more. -/
  stopped : Bool := false
  deriving Repr

namespace JobQueue

/-- A queue for at least one job. -/
def ofCapacity (capacity : Nat) : JobQueue := { capacity := max capacity 1 }

/-- The queue takes another job. -/
def accepts (queue : JobQueue) : Bool := !queue.stopped && queue.waiting.length < queue.capacity

/-- Puts a job behind the others, and tells whether it was taken. -/
def submit (queue : JobQueue) (job : Job) : Bool × JobQueue :=
  if queue.accepts then (true, { queue with waiting := queue.waiting ++ [job] })
  else (false, queue)

end JobQueue

/-- Delivers a notice to its readers, and tells how often. -/
def Broker.deliverNotice (setting : Broker.Setting) (broker : Broker) (notice : NoticeMessage) :
    Audience → Nat × Broker
  | .all => broker.broadcastNotice setting notice.body
  | .users names =>
    names.foldl (fun (delivered, broker) name ↦
      let (more, broker) := broker.sendToQueue setting name Topic.message notice.body
      (delivered + more, broker)) (0, broker)

end StompBroker
