/-!
# Commands

The fifteen commands of the protocol, those of clients and those of servers. `Command.ofText?` reads
exactly the names that `Command.text` writes.
-/

set_option autoImplicit false

namespace StompBroker

/-- The first line of a frame. -/
inductive Command where
  | connect
  | stomp
  | connected
  | send
  | subscribe
  | unsubscribe
  | ack
  | nack
  | begin
  | commit
  | abort
  | disconnect
  | message
  | receipt
  | error
  deriving DecidableEq, Repr

namespace Command

/-- The name of a command on the wire. -/
def text : Command → String
  | connect => "CONNECT"
  | stomp => "STOMP"
  | connected => "CONNECTED"
  | send => "SEND"
  | subscribe => "SUBSCRIBE"
  | unsubscribe => "UNSUBSCRIBE"
  | ack => "ACK"
  | nack => "NACK"
  | begin => "BEGIN"
  | commit => "COMMIT"
  | abort => "ABORT"
  | disconnect => "DISCONNECT"
  | message => "MESSAGE"
  | receipt => "RECEIPT"
  | error => "ERROR"

/-- Every command once. -/
def all : List Command :=
  [connect, stomp, connected, send, subscribe, unsubscribe, ack, nack, begin, commit, abort,
    disconnect, message, receipt, error]

/-- The command of a name. -/
def ofText? (name : String) : Option Command := all.find? fun command ↦ command.text == name

/-- Frames whose headers are never escaped. -/
def isConnectFamily : Command → Bool
  | connect | stomp | connected => true
  | _ => false

/-- Commands that only a server may send. -/
def isServerCommand : Command → Bool
  | connected | message | receipt | error => true
  | _ => false

end Command

end StompBroker
