import StompBroker.Failure
import StompBroker.Store.Table

/-!
# What the service stores

`Tables` are the users, the notices and the log of requests, and marks that further endpoints may
leave. A table may be missing. A `Statement` reads or changes tables, or fails and leaves them as
they are.
-/

set_option autoImplicit false

namespace StompBroker

/-- Somebody who may log in. -/
structure User where
  username : String
  nickname : String
  /-- The hash of the password. -/
  password : String
  status : Int
  createTime : Int
  deriving DecidableEq, Repr

/-- The status of a user who may log in. -/
def User.enabled : Int := 1

/-- A published notice. -/
structure Notice where
  title : String
  content : String
  targetType : Int
  /-- The names of the addressees with commas between them. -/
  targetUsers : Option String
  publisher : String
  publishTime : Int
  deriving DecidableEq, Repr

/-- A request of an authenticated user. -/
structure AccessEntry where
  username : Option String
  method : String
  path : String
  status : Nat
  client : String
  createTime : Int
  deriving DecidableEq, Repr

/-- All tables. -/
structure Tables where
  users : Option (Table User) := none
  notices : Option (Table Notice) := none
  accesses : Option (Table AccessEntry) := none
  marks : Option (Table String) := none
  deriving Repr

/-- Reads or changes tables. -/
abbrev Statement (α : Type) := Tables → Except Failure (α × Tables)

namespace Tables

/-- The tables, with those that the service needs. -/
def prepare (tables : Tables) : Tables :=
  { tables with
    users := tables.users.getD .empty
    notices := tables.notices.getD .empty
    accesses := tables.accesses.getD .empty }

/-- The tables without the one of that name. -/
def drop (name : String) (tables : Tables) : Tables :=
  match name with
  | "sys_user" => { tables with users := none }
  | "sys_notice" => { tables with notices := none }
  | "sys_log" => { tables with accesses := none }
  | "tx_demo" => { tables with marks := none }
  | _ => tables

/-- A table that has to be there. -/
def require {α : Type} (name : String) : Option (Table α) → Except Failure (Table α)
  | some table => .ok table
  | none => .error (.query ("no such table: " ++ name))

/-- Finds the user of a name. -/
def findUser (username : String) : Statement (Option (Int × User)) := fun tables ↦ do
  let users ← require "sys_user" tables.users
  return (users.find? fun user ↦ user.username == username, tables)

/-- Lists the users. -/
def listUsers : Statement (List (Int × User)) := fun tables ↦ do
  return ((← require "sys_user" tables.users).rows, tables)

/-- Adds a user, whose name must be new, with a given id or the next one. -/
def addUser (id : Option Int) (user : User) : Statement Int := fun tables ↦ do
  let users ← require "sys_user" tables.users
  if (users.find? fun other ↦ other.username == user.username).isSome then
    throw (.query "UNIQUE constraint failed: sys_user.username")
  match id with
  | none =>
    let (id, users) := users.insert user
    return (id, { tables with users := some users })
  | some id =>
    if hold : users.contains id then throw (.query "UNIQUE constraint failed: sys_user.id")
    else
      let users := users.add id user (Table.ne_of_not_contains hold)
      return (id, { tables with users := some users })

/-- Adds a notice. -/
def addNotice (notice : Notice) : Statement Int := fun tables ↦ do
  let (id, notices) := (← require "sys_notice" tables.notices).insert notice
  return (id, { tables with notices := some notices })

/-- The number of notices, and a page of them, the latest first. -/
def pageOfNotices (limit offset : Nat) : Statement (Nat × List (Int × Notice)) := fun tables ↦ do
  let notices ← require "sys_notice" tables.notices
  return ((notices.size, notices.latest limit offset), tables)

/-- Adds an entry to the log of requests. -/
def addAccess (entry : AccessEntry) : Statement Unit := fun tables ↦ do
  let (_, accesses) := (← require "sys_log" tables.accesses).insert entry
  return ((), { tables with accesses := some accesses })

/-- Leaves a mark. -/
def addMark (mark : String) : Statement Unit := fun tables ↦ do
  let (_, marks) := (← require "tx_demo" tables.marks).insert mark
  return ((), { tables with marks := some marks })

end Tables

end StompBroker
