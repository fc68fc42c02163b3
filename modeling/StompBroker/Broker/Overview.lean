import StompBroker.Broker.State
import StompBroker.Json.Value

/-!
# An overview of the broker

What there is to see of sessions and of the broker from outside, as documents.
-/

set_option autoImplicit false

namespace StompBroker

/-- A session in the listing of users on line. -/
def OnlineUser.toJson (user : OnlineUser) : Json :=
  .object [("username", .string user.username), ("sessionId", .string user.session.text),
    ("connectTime", .ofInt user.connectTime)]

namespace Broker

/-- A session under the name of its client. -/
def sessionView (broker : Broker) (client : String) (session : Session) : Json :=
  .ofMembers
    [("as", .string client), ("user", .string session.username),
      ("auth", .bool session.authenticated), ("version", .string session.version.text),
      ("subs", .ofNat session.subscriptions.length), ("connectTime", .ofInt session.connectTime),
      ("cancelled", .bool session.cancelled),
      ("registered", .bool (broker.registry.contains session.id))]

/-- The broker, with the sessions of some clients. -/
def overview (broker : Broker) (clients : List (String × SessionId)) : Json :=
  .ofMembers
    [("online", .array (broker.registry.onlineUsers.map OnlineUser.toJson)),
      ("onlineCount", .ofNat broker.registry.onlineCount),
      ("sessions", .ofNat broker.registry.size),
      ("empty", .bool broker.registry.isEmpty),
      ("destinations", .ofNat broker.table.destinationCount),
      ("subscriptions", .ofNat broker.table.subscriptionCount),
      ("clients", .array (clients.filterMap fun client ↦
        (broker.session? client.2).map (broker.sessionView client.1)))]

end Broker

end StompBroker
