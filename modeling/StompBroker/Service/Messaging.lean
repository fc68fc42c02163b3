import StompBroker.Broker.Overview
import StompBroker.Service.Handler

/-!
# Messages and who is online

The endpoints through which messages are sent over HTTP, and those that tell who is connected.
-/

set_option autoImplicit false

namespace StompBroker

namespace Messaging

variable {σ : Type}

/-- A text as the body of a message. -/
def textBody (message : String) : Bytes := Json.write (.string message)

/-- The number of users on line. -/
def onlineCount (service : Service σ) : Json := .ofNat service.broker.registry.onlineCount

/-- The endpoint that tells that the service is up. -/
def health : Handler σ := fun _ _ service ↦
  Handler.reply
    (.ok (.ok (.object [("status", .string "ok"), ("onlineCount", onlineCount service)])), service)

/-- The endpoint that counts the users on line. -/
def count : Handler σ := fun _ _ service ↦
  Handler.reply (.ok (.ok (onlineCount service)), service)

/-- The endpoint that lists the users on line. -/
def online : Handler σ := fun _ _ service ↦
  Handler.reply
    (.ok (.ok (.array (service.broker.registry.onlineUsers.map OnlineUser.toJson))), service)

/-- The endpoint for messages to everybody. -/
def toAll : Handler σ :=
  .reading (.record [("message", .required, .text)]) fun _ body service ↦
    (.ok .empty, service.changeBroker fun setting broker ↦
      (broker.broadcast setting Topic.notice (textBody (body.textOf "message"))).2)

/-- The endpoint for messages to one user. -/
def toUser : Handler σ :=
  .reading (.record [("username", .required, .text), ("message", .required, .text)])
    fun context body service ↦
      Handler.known (fun _ service ↦
        if Text.allBlank (body.textOf "username") then
          (.error (.validation "username must not be empty"), service)
        else
          (.ok .empty, service.changeBroker fun setting broker ↦
            (broker.sendToUser setting (body.textOf "username")
              (textBody (body.textOf "message"))).2)) context service

/-- The endpoint for changes of dictionaries. -/
def dictionary : Handler σ :=
  .reading (.record [("dictCode", .required, .text)]) fun _ body service ↦
    if Text.allBlank (body.textOf "dictCode") then
      (.error (.validation "dictCode must not be empty"), service)
    else
      (.ok .empty, service.changeBroker fun setting broker ↦
        (broker.broadcastDictionaryChange setting (body.textOf "dictCode")).2)

end Messaging

end StompBroker
