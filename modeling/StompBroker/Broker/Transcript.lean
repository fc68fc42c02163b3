import StompBroker.Broker.State

/-!
# What clients saw

A `Transcript` of an operation holds, for each client, the frames that were written to it. The
messages of one delivery reach a client in any order, and the ids that a delivery hands out depend
on that order. A transcript does not: `arrange` sorts the messages that differ in nothing but the
subscription and the id, and `renumber` hands out the ids again, from client to client.
-/

set_option autoImplicit false

namespace StompBroker

/-- A frame and the version that it was written in. -/
structure Written where
  version : Version
  frame : Frame
  deriving DecidableEq, Repr

namespace Written

/-- The frame is a message. -/
def isMessage (written : Written) : Bool := written.frame.command == .message

/-- The frame without what tells apart the messages of a delivery. -/
def unlabelled (written : Written) : Written :=
  { written with frame := { written.frame with
      headers := written.frame.headers.filter fun header ↦
        header.1 != Header.subscription && header.1 != Header.messageId } }

/-- The subscription of a message as it is written. -/
def subscription (written : Written) : String :=
  let value := (written.frame.header? Header.subscription).getD ""
  if written.version.escapesHeaders then Header.escape value else value

/-- The number of a message. -/
def number? (written : Written) : Option Nat :=
  if written.isMessage then (written.frame.header? Header.messageId).bind String.toNat? else none

/-- The frame with another text in the place of its number. -/
def setNumber (number : String) (written : Written) : Written :=
  { written with frame := { written.frame with
      headers := written.frame.headers.map fun header ↦
        if header.1 == Header.messageId then (header.1, number) else header } }

/-- Both are messages of what may be one delivery. -/
def isSimilar (left right : Written) : Bool :=
  left.isMessage && right.isMessage && left.unlabelled == right.unlabelled

/-- The frame as octets. -/
def bytes (written : Written) : Bytes := Codec.encode written.version written.frame

end Written

namespace Transcript

/-- The octets that were written to a client, in their order. -/
def octets (journal : List Event) (id : SessionId) : Bytes :=
  journal.flatMap fun event ↦
    match event with
    | .wrote session version frame .written =>
      if session = id then Codec.encode version frame else []
    | _ => []

/-- Sorts the messages that may belong to one delivery by their subscriptions. -/
def arrange (frames : List Written) : List Written :=
  (frames.splitBy Written.isSimilar).flatMap fun run ↦
    run.mergeSort fun left right ↦ left.subscription ≤ right.subscription

/-- What stands for a number that is not handed out. -/
def unknownNumber : String := "*"

/-- Hands out numbers to messages, and tells which are left. -/
def renumber (numbers : List Nat) : List Written → List Written × List Nat
  | [] => ([], numbers)
  | written :: rest =>
    if written.isMessage then
      let number := (numbers.head?.map toString).getD unknownNumber
      let (more, numbers) := renumber (numbers.drop 1) rest
      (written.setNumber number :: more, numbers)
    else
      let (more, numbers) := renumber numbers rest
      (written :: more, numbers)

/-- Hands out numbers to the messages of all clients. -/
def renumberAll (numbers : List Nat) :
    List (SessionId × List Written) → List (SessionId × List Written)
  | [] => []
  | (id, frames) :: rest =>
    let (frames, numbers) := renumber numbers frames
    (id, frames) :: renumberAll numbers rest

/-- The frames that a client was written, in order. -/
def framesOf (journal : List Event) (id : SessionId) : List Written :=
  journal.filterMap fun event ↦
    match event with
    | .wrote session version frame .written => if session = id then some ⟨version, frame⟩ else none
    | _ => none

/-- The frames that every client was written; the numbers of messages stand if `isNumbered`. -/
def frames (journal : List Event) (clients : List SessionId) (isNumbered : Bool) :
    List (SessionId × List Written) :=
  let rows := clients.map fun id ↦ (id, arrange (framesOf journal id))
  let numbers := (rows.flatMap fun row ↦ row.2.filterMap Written.number?).mergeSort
  renumberAll (if isNumbered then numbers else []) rows

/-- The pings of a client that were answered. -/
def answers (journal : List Event) (id : SessionId) : List Bytes :=
  journal.filterMap fun event ↦
    match event with
    | .answered session payload => if session = id then some payload else none
    | _ => none

/-- The clients that saw the end of their connection. -/
def closed (journal : List Event) (clients : List SessionId) : List SessionId :=
  clients.filter fun id ↦ journal.contains (.closed id true)

end Transcript

end StompBroker
