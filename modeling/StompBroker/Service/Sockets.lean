import StompBroker.Broker.Socket
import StompBroker.Http.Upgrade
import StompBroker.Service.State

/-!
# The sockets of a service

`Sockets` are the open reading halves, each with the instant at which its client has to be
authenticated. These instants are on a clock of their own, which only moves forward and does not
know the time of day.

A request for a session opens a socket; `deliver` hands an arrival to one, and `settle` lets every
socket notice that its session was closed or that its time is over.
-/

set_option autoImplicit false

namespace StompBroker

/-- The open sockets. -/
structure Sockets where
  entries : List (Socket × Nat) := []
  /-- The time on the clock of the sockets, in milliseconds. -/
  now : Nat := 0

namespace Sockets

variable {σ : Type}

/-- The socket of a session. -/
def find? (sockets : Sockets) (id : SessionId) : Option (Socket × Nat) :=
  sockets.entries.find? fun entry ↦ entry.1.id == id

/-- Lets time pass. -/
def pass (sockets : Sockets) (millis : Nat) : Sockets :=
  { sockets with now := sockets.now + millis }

/-- Opens a socket, and a session for it. -/
def accept (id : SessionId) (sink : Sink) (sockets : Sockets) (service : Service σ) :
    Sockets × Service σ :=
  let socket := Socket.fresh id service.settings.broker.maxFrameBytes
  ({ sockets with
      entries := sockets.entries ++ [(socket, sockets.now + service.settings.connectMillis)] },
    service.changeBroker fun setting broker ↦ broker.openSession setting id sink)

/-- Hands an arrival to the socket of a session, and tells whether there is one. -/
def deliver (id : SessionId) (arrival : Arrival) (sockets : Sockets) (service : Service σ) :
    Bool × Sockets × Service σ :=
  match sockets.find? id with
  | none => (false, sockets, service)
  | some (socket, deadline) =>
    let others := sockets.entries.filter fun entry ↦ entry.1.id != id
    let (left, service) := service.withBroker fun setting broker ↦
      socket.serve setting broker arrival
    let entries := others ++ left.toList.map fun socket ↦ (socket, deadline)
    (true, { sockets with entries := entries }, service)

/-- What a socket notices by itself. -/
def due? (sockets : Sockets) (service : Service σ) (entry : Socket × Nat) : Option Arrival :=
  if !service.broker.registry.contains entry.1.id then some .shutdown
  else if entry.2 ≤ sockets.now then some .deadline
  else none

/-- Lets every socket notice what happened to it. -/
def settle (sockets : Sockets) (service : Service σ) : Sockets × Service σ :=
  sockets.entries.foldl (fun (sockets, service) entry ↦
    match due? sockets service entry with
    | none => (sockets, service)
    | some arrival => (deliver entry.1.id arrival sockets service).2) (sockets, service)

end Sockets

end StompBroker
