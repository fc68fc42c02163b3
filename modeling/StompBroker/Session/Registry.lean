import StompBroker.Failure
import StompBroker.Frame.Version
import StompBroker.Session.Table

/-!
# Sessions and who is online

A `Session` is what the broker knows about one connection. A `Registry` holds the live sessions and,
for each user, the ids of the sessions bound to that user; a user without sessions is not kept.

A session is found under its user by its own record: `Registry.remove` looks up the name that the
session carries when it leaves. The listing of users on line, `onlineUsers`, is ordered by the
instant at which the sessions were opened and then by the text of their ids.
-/

set_option autoImplicit false

namespace StompBroker

/-- One connection. -/
structure Session where
  id : SessionId
  connectTime : Int
  username : String := ""
  authenticated : Bool := false
  version : Version := .v12
  /-- The destination of each subscription id. -/
  subscriptions : List (String × String) := []
  /-- The connection was told to stop. -/
  cancelled : Bool := false
  deriving DecidableEq, Repr

namespace Session

/-- The session of an accepted handshake. -/
def authenticate (session : Session) (username : String) (version : Version) : Session :=
  { session with username := username, authenticated := true, version := version }

/-- Records a subscription, unless its id is taken. -/
def subscribe? (session : Session) (subscription destination : String) : Option Session :=
  if (session.subscriptions.lookup subscription).isSome then none
  else
    some { session with subscriptions := session.subscriptions ++ [(subscription, destination)] }

/-- Drops a subscription id. -/
def unsubscribe (session : Session) (subscription : String) : Session :=
  { session with
    subscriptions := session.subscriptions.filter fun entry ↦ entry.1 != subscription }

end Session

/-- A session in the listing of users on line. -/
structure OnlineUser where
  username : String
  session : SessionId
  connectTime : Int
  deriving DecidableEq, Repr

/-- The live sessions, by id and by user. -/
structure Registry where
  sessions : List Session := []
  users : List (String × List SessionId) := []
  deriving Repr

namespace Registry

/-- A registry without sessions. -/
def empty : Registry := {}

/-- The live session of that id. -/
def get? (registry : Registry) (id : SessionId) : Option Session :=
  registry.sessions.find? fun session ↦ session.id == id

/-- The session is live. -/
def contains (registry : Registry) (id : SessionId) : Bool := (registry.get? id).isSome

/-- Puts a session in the place of one with its id, or behind all others. -/
def put (session : Session) : List Session → List Session
  | [] => [session]
  | other :: rest => if other.id = session.id then session :: rest else other :: put session rest

/-- Adds a session, not yet bound to a user. -/
def add (registry : Registry) (session : Session) : Registry :=
  { registry with sessions := put session registry.sessions }

/-- Changes the record of a live session. -/
def update (registry : Registry) (id : SessionId) (change : Session → Session) : Registry :=
  { registry with
    sessions := registry.sessions.map fun session ↦
      if session.id = id then change session else session }

/-- Puts an id into the row of a user, which is opened if there is none. -/
def bindTo (username : String) (id : SessionId) :
    List (String × List SessionId) → List (String × List SessionId)
  | [] => [(username, [id])]
  | (other, ids) :: rest =>
    if other = username then (other, if id ∈ ids then ids else ids ++ [id]) :: rest
    else (other, ids) :: bindTo username id rest

/-- Lists a live session under a user. -/
def bind (registry : Registry) (id : SessionId) (username : String) : Except Failure Registry :=
  if registry.contains id then .ok { registry with users := bindTo username id registry.users }
  else .error (.sessionNotFound id.text)

/-- Takes an id out of one row, and the row away with its last id. -/
def unbindRow (username : String) (id : SessionId) (row : String × List SessionId) :
    Option (String × List SessionId) :=
  if row.1 = username then
    match row.2.filter (· != id) with
    | [] => none
    | kept => some (row.1, kept)
  else some row

/-- Removes a session from both lists; the answer holds the session if it was live. -/
def remove (registry : Registry) (id : SessionId) : Option Session × Registry :=
  match registry.get? id with
  | none => (none, registry)
  | some session =>
    (some session,
      { sessions := registry.sessions.filter fun other ↦ other.id != id
        users := registry.users.filterMap (unbindRow session.username id) })

/-- The live sessions among the given ids, in the order of the ids. -/
def getMany (registry : Registry) (ids : List SessionId) : List Session :=
  ids.filterMap registry.get?

/-- The live sessions listed under a user. -/
def sessionsFor (registry : Registry) (username : String) : List Session :=
  registry.getMany ((registry.users.lookup username).getD [])

/-- The order of the listing: older sessions first, then by the text of the id, and by the user for
a session that was bound to several. -/
def listedBefore (left right : OnlineUser) : Bool :=
  if left.connectTime ≠ right.connectTime then left.connectTime < right.connectTime
  else if left.session ≠ right.session then left.session.text < right.session.text
  else left.username ≤ right.username

/-- Every live session of every user, oldest first. -/
def onlineUsers (registry : Registry) : List OnlineUser :=
  (registry.users.flatMap fun row ↦
    (registry.getMany row.2).map fun session ↦
      { username := row.1, session := session.id, connectTime := session.connectTime }).mergeSort
    listedBefore

/-- How many users are listed. -/
def onlineCount (registry : Registry) : Nat := registry.users.length

/-- How many sessions are live. -/
def size (registry : Registry) : Nat := registry.sessions.length

/-- No session is live. -/
def isEmpty (registry : Registry) : Bool := registry.size == 0

end Registry

end StompBroker
