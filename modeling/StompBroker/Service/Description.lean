import StompBroker.Service.Handler
import StompBroker.Text.Quoted

/-!
# Descriptions

One line about each of the larger parts, for those who look for a fault. The signing key, the write
half of a connection and the connection to the database are left out.
-/

set_option autoImplicit false

namespace StompBroker

/-- A line about a structure. -/
def describeFields (name : String) (fields : List (String × String)) (isPartial : Bool) : String :=
  let shown := fields.map fun field ↦ field.1 ++ ": " ++ field.2
  name ++ " \x7b " ++ ", ".intercalate (shown ++ if isPartial then [".."] else []) ++ " \x7d"

/-- A line about the broker. -/
def Broker.describe (setting : Broker.Setting) (broker : Broker) : String :=
  describeFields "Broker"
    [("sessions", toString broker.registry.size),
      ("subscriptions", toString broker.table.subscriptionCount),
      ("handlers", toString setting.routes.size)] false

/-- A line about who signs tokens. -/
def Authenticator.describe (auth : Authenticator) : String :=
  describeFields "TokenAuthenticator"
    [("issuer", Text.quoted auth.issuer), ("ttl_secs", toString auth.ttlSeconds)] true

/-- The name of a version among names. -/
def Version.symbol : Version → String
  | .v10 => "V1_0"
  | .v11 => "V1_1"
  | .v12 => "V1_2"

/-- A line about what changes in a session. -/
def Session.describeState (session : Session) : String :=
  let entries := session.subscriptions.map fun entry ↦
    Text.quoted entry.1 ++ ": " ++ Text.quoted entry.2
  describeFields "SessionState"
    [("username", Text.quoted session.username),
      ("authenticated", toString session.authenticated), ("version", session.version.symbol),
      ("subscriptions", "\x7b" ++ ", ".intercalate entries ++ "\x7d")] false

/-- A line about a session. -/
def Session.describe (session : Session) : String :=
  describeFields "Session"
    [("id", session.id.text), ("connect_time", toString session.connectTime),
      ("state", session.describeState)] true

/-- A line about a user. -/
def Principal.describe (principal : Principal) : String :=
  describeFields "Principal"
    [("user_id", toString principal.userId), ("username", Text.quoted principal.username)] false

/-- A line about the circumstances of a request. -/
def Context.describe (context : Context) : String :=
  let principal := match context.principal with
    | none => "None"
    | some principal => "Some(" ++ principal.describe ++ ")"
  describeFields "RequestContext"
    [("principal", principal),
      ("db", if context.inTransaction then "DbScope::Transaction" else "DbScope::Pool")] false

end StompBroker
