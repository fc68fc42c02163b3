/-!
# The subscription table

`SubscriptionTable` maps each destination to the sessions that subscribed to it, a session once for
each of its subscription ids. A destination without subscribers is not kept. `entries` is the same
relation as a list of triples.
-/

set_option autoImplicit false

namespace StompBroker

/-- Names a session; sessions are ordered by the text of their ids. -/
structure SessionId where
  text : String
  deriving DecidableEq, Repr

/-- One subscription of a session. -/
structure Subscriber where
  session : SessionId
  subscription : String
  deriving DecidableEq, Repr

/-- Which sessions receive what is sent to a destination. -/
structure SubscriptionTable where
  destinations : List (String × List Subscriber) := []
  deriving Repr

namespace SubscriptionTable

/-- A table without entries. -/
def empty : SubscriptionTable := {}

/-- The subscribers of a destination. -/
def subscribers (table : SubscriptionTable) (destination : String) : List Subscriber :=
  (table.destinations.lookup destination).getD []

/-- The subscribers of a destination in the order of the texts of their ids. -/
def listing (table : SubscriptionTable) (destination : String) : List Subscriber :=
  (table.subscribers destination).mergeSort fun left right ↦
    left.session.text < right.session.text ||
      (left.session == right.session && left.subscription ≤ right.subscription)

/-- The table as a relation. -/
def entries (table : SubscriptionTable) : List (String × Subscriber) :=
  table.destinations.flatMap fun row ↦ row.2.map fun subscriber ↦ (row.1, subscriber)

/-- Puts a subscriber into the row of its destination, which is opened if there is none. -/
def addTo (destination : String) (subscriber : Subscriber) :
    List (String × List Subscriber) → List (String × List Subscriber)
  | [] => [(destination, [subscriber])]
  | (other, subscribers) :: rest =>
    if other = destination then
      (other, if subscriber ∈ subscribers then subscribers else subscribers ++ [subscriber]) :: rest
    else (other, subscribers) :: addTo destination subscriber rest

/-- Adds an entry; an entry that is there already stays. -/
def add (table : SubscriptionTable) (destination : String) (subscriber : Subscriber) :
    SubscriptionTable :=
  ⟨addTo destination subscriber table.destinations⟩

/-- Drops the subscribers of one row that are not kept, and the row with the last of them. -/
def keepRow (keep : String → Subscriber → Bool) (row : String × List Subscriber) :
    Option (String × List Subscriber) :=
  match row.2.filter (keep row.1) with
  | [] => none
  | kept => some (row.1, kept)

/-- Keeps the entries of a kind. -/
def filter (table : SubscriptionTable) (keep : String → Subscriber → Bool) : SubscriptionTable :=
  ⟨table.destinations.filterMap (keepRow keep)⟩

/-- Removes an entry and tells whether it was there. -/
def remove (table : SubscriptionTable) (destination : String) (subscriber : Subscriber) :
    Bool × SubscriptionTable :=
  (decide (subscriber ∈ table.subscribers destination),
    table.filter fun other kept ↦ !(other == destination && kept == subscriber))

/-- How many entries there are. -/
def subscriptionCount (table : SubscriptionTable) : Nat :=
  (table.destinations.flatMap (·.2)).length

/-- How many destinations have subscribers. -/
def destinationCount (table : SubscriptionTable) : Nat := table.destinations.length

/-- Removes every entry of a session and tells how many there were. -/
def removeSession (table : SubscriptionTable) (session : SessionId) : Nat × SubscriptionTable :=
  let kept := table.filter fun _ subscriber ↦ subscriber.session != session
  (table.subscriptionCount - kept.subscriptionCount, kept)

end SubscriptionTable

end StompBroker
