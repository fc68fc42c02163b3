import StompBroker.Session.Table

/-!
# Rows that are emptied in place

`SubscriptionTable.remove` and `SubscriptionTable.removeSession` say which entries stay. A table in
memory gets there in two ways. `withdraw` goes to the row of one destination, takes one subscriber
out of it and looks whether it was the last. `sweepSession` goes through all rows, takes the
subscribers of one session out of each, and counts them while it goes. On both ways a row that is
left without subscribers has to be dropped.
-/

set_option autoImplicit false

namespace StompBroker.SubscriptionTable

/-- Takes a subscriber out of the row of its destination, tells whether it was there, and drops the
row if nobody is left in it. -/
def withdrawFrom (destination : String) (subscriber : Subscriber) :
    List (String × List Subscriber) → Bool × List (String × List Subscriber)
  | [] => (false, [])
  | (other, subscribers) :: rest =>
    if other = destination then
      let left := subscribers.erase subscriber
      (decide (subscriber ∈ subscribers), if left.isEmpty then rest else (other, left) :: rest)
    else
      let (found, left) := withdrawFrom destination subscriber rest
      (found, (other, subscribers) :: left)

/-- Removes an entry from the row of its destination and tells whether it was there. -/
def withdraw (table : SubscriptionTable) (destination : String) (subscriber : Subscriber) :
    Bool × SubscriptionTable :=
  let (found, left) := withdrawFrom destination subscriber table.destinations
  (found, ⟨left⟩)

/-- Takes the subscribers of a session out of every row, adds their number to those removed before,
and drops the rows in which nobody is left. -/
def sweepFrom (session : SessionId) (removed : Nat) :
    List (String × List Subscriber) → Nat × List (String × List Subscriber)
  | [] => (removed, [])
  | (destination, subscribers) :: rest =>
    let left := subscribers.filter fun subscriber ↦ subscriber.session != session
    let (total, rows) := sweepFrom session (removed + (subscribers.length - left.length)) rest
    (total, if left.isEmpty then rows else (destination, left) :: rows)

/-- Removes every entry of a session, row by row, and tells how many there were. -/
def sweepSession (table : SubscriptionTable) (session : SessionId) : Nat × SubscriptionTable :=
  let (removed, left) := sweepFrom session 0 table.destinations
  (removed, ⟨left⟩)

end StompBroker.SubscriptionTable
