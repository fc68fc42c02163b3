import StompBroker.Text.Split

/-!
# Destinations

A destination is classified by how it starts, and every class needs a name behind its start: topics
and queues, a user's own queues, application endpoints, and the queues of a named user. All users
share one key per private queue, `/user/queue/name`; `userQueue` forms it, and a destination that
names a user keeps that key as its `canonical` form. `userDestination` is the form that names the
user. A destination of no class is `other`.
-/

set_option autoImplicit false

namespace StompBroker

/-- A destination and what it is for. -/
inductive Destination where
  | topic (path : String)
  | queue (path : String)
  | userQueue (path : String)
  | app (path : String)
  | userScoped (username canonical : String)
  | other (path : String)
  deriving DecidableEq, Repr

/-- The shared key of a private queue, from the queue's path. -/
def userQueue (queue : String) : String := "/user" ++ queue

/-- A user's private queue, from the queue's path. -/
def userDestination (username queue : String) : String := "/user/" ++ username ++ queue

namespace Destination

/-- A path has a name behind its start. -/
def hasName (start path : String) : Bool :=
  match Text.stripStart? start path with
  | some name => !name.isEmpty
  | none => false

/-- The user and the shared key of a path that names a user. -/
def scoped? (path : String) : Option (String × String) := do
  let rest ← Text.stripStart? "/user/" path
  let (username, name) ← Text.splitOnce? '/' rest
  let queue := "/" ++ name
  if !username.isEmpty && hasName "/queue/" queue then some (username, StompBroker.userQueue queue)
  else none

/-- The class of a path. -/
def parse (path : String) : Destination :=
  if hasName "/topic/" path then topic path
  else if hasName "/queue/" path then queue path
  else if hasName "/user/queue/" path then userQueue path
  else if hasName "/app/" path then app path
  else
    match scoped? path with
    | some (username, canonical) => userScoped username canonical
    | none => other path

end Destination

end StompBroker
