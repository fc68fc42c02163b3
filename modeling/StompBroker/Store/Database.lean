import StompBroker.Store.Tables

/-!
# Transactions

A `Database` holds the stored tables and, while a request has a transaction, the tables as the
transaction sees them. `run` executes a statement in a transaction, where it counts once the
transaction is committed, or on its own, where it counts at once. A transaction that was finished
runs nothing any more.

Whether a transaction can be committed is up to the storage, which may be full or broken, or find
that references lead nowhere. So that is left open: `refusal?` says which ones it refuses to store.
-/

set_option autoImplicit false

namespace StompBroker

/-- Names a transaction. -/
structure TransactionId where
  number : Nat
  deriving DecidableEq, Repr

/-- The stored tables and the open transaction. -/
structure Database where
  tables : Tables := {}
  /-- Requests run in transactions. -/
  hasTransactions : Bool := false
  isOpen : Bool := true
  /-- The open transaction, and the tables as it sees them. -/
  working : Option (TransactionId × Tables) := none
  nextTransaction : Nat := 1
  /-- Why the storage refuses a transaction, if it does. -/
  refusal? : TransactionId → Option String := fun _ ↦ none

namespace Database

/-- The failure of everything that needs a database that was closed. -/
def closed : Failure := .query "attempted to acquire a connection on a closed pool"

/-- The failure of a statement in a transaction that is over. -/
def finished : Failure := .database "request transaction already finished"

/-- Opens a transaction. -/
def begin (database : Database) : Except Failure (TransactionId × Database) :=
  if database.isOpen then
    let id : TransactionId := ⟨database.nextTransaction⟩
    .ok (id, { database with
      working := some (id, database.tables)
      nextTransaction := database.nextTransaction + 1 })
  else .error closed

/-- Executes a statement on its own. -/
def runAlone {α : Type} (database : Database) (statement : Statement α) :
    Except Failure α × Database :=
  if !database.isOpen then (.error closed, database)
  else
    match statement database.tables with
    | .error failure => (.error failure, database)
    | .ok (value, tables) => (.ok value, { database with tables := tables })

/-- Executes a statement, in a transaction if one is named. -/
def run {α : Type} (database : Database) (transaction : Option TransactionId)
    (statement : Statement α) : Except Failure α × Database :=
  match transaction with
  | none => database.runAlone statement
  | some id =>
    match database.working with
    | none => (.error finished, database)
    | some (openId, tables) =>
      if openId ≠ id then (.error finished, database)
      else
        match statement tables with
        | .error failure => (.error failure, database)
        | .ok (value, tables) => (.ok value, { database with working := some (id, tables) })

/-- Ends the open transaction and forgets what it did. -/
def rollback (database : Database) : Database := { database with working := none }

/-- Ends the open transaction and stores what it did, if that can be stored. -/
def commit (database : Database) : Except Failure Unit × Database :=
  match database.working with
  | none => (.ok (), database)
  | some (id, tables) =>
    match database.refusal? id with
    | none => (.ok (), { database with tables := tables, working := none })
    | some reason => (.error (.commitFailed reason), database.rollback)

end Database

end StompBroker
