import StompBroker.Disk.Files
import StompBroker.Store.Database

/-!
# Databases in files

A `Storage` holds files and the tables of the databases in some of them. `Storage.connect` opens the
database in a file, which comes into being if it is not there; a file with anything else in it is
not a database. `Connection` is an open database, in a file or in memory.

Statements on a connection count at once, and those on a connection that was closed fail.
-/

set_option autoImplicit false

namespace StompBroker

/-- Where the tables of a connection are kept. -/
inductive Place where
  | file (path : Path)
  | memory
  deriving DecidableEq, Repr

/-- An open database. -/
structure Connection where
  name : String
  place : Place
  tables : Tables := {}
  isOpen : Bool := true
  deriving Repr

/-- Files, and what the databases in them hold. -/
structure Storage where
  files : Files := {}
  databases : List (Path × Tables) := []
  deriving Repr

/-- Why a database cannot be opened. -/
inductive ConnectProblem where
  /-- The folder for it cannot be made. -/
  | noFolder (folder : String) (cause : FolderProblem)
  /-- The name is that of a folder. -/
  | isFolder (name : String)
  /-- There is something else in the file. -/
  | notDatabase (name : String)
  deriving DecidableEq, Repr

namespace ConnectProblem

/-- The wording of the problem. -/
def message : ConnectProblem → String
  | noFolder folder _ => "Failed to create " ++ folder
  | isFolder name | notDatabase name => "Failed to open SQLite database " ++ name

/-- What the library that keeps databases says. -/
def detail : ConnectProblem → String
  | noFolder _ problem => problem.message
  | isFolder _ => "(code: 14) unable to open database file"
  | notDatabase _ => "(code: 26) file is not a database"

/-- The wording of the causes, from the outside in. -/
def causes (problem : ConnectProblem) : List String :=
  match problem with
  | noFolder _ _ => [problem.detail]
  | isFolder _ | notDatabase _ =>
    ["error returned from database: " ++ problem.detail, problem.detail]

end ConnectProblem

namespace Storage

/-- Keeps the tables of a database. -/
def keep (storage : Storage) (path : Path) (tables : Tables) : Storage :=
  { storage with
    databases := (storage.databases.filter fun entry ↦ entry.1 != path) ++ [(path, tables)] }

/-- Names that stand for a new database that no file keeps. -/
def isTemporary (name : String) : Bool := name.isEmpty || name == ":memory:"

/-- Opens the database in a file. -/
def connect (storage : Storage) (name : String) : Except ConnectProblem (Connection × Storage) :=
  let path := Path.ofText name
  let folder := Path.folderText name
  if isTemporary name then .ok ({ name, place := .memory }, storage)
  else
    match storage.files.makeFolder (Path.ofText folder) with
    | .error cause => .error (.noFolder folder cause)
    | .ok files =>
      if files.isFolder path || Text.endsWith "/" name then .error (.isFolder name)
      else
        match storage.databases.lookup path, files.content? path with
        | some tables, _ =>
          .ok ({ name, place := .file path, tables }, { storage with files := files })
        | none, some (_ :: _) => .error (.notDatabase name)
        | none, _ =>
          .ok ({ name, place := .file path },
            { files := files.touch path, databases := storage.databases ++ [(path, {})] })

end Storage

namespace Connection

/-- A new database in memory. -/
def inMemory : Connection := { name := ":memory:", place := .memory }

/-- The same database under the name for one that was opened elsewhere. -/
def shared (connection : Connection) : Connection := { connection with name := "from_pool" }

/-- Executes a statement. -/
def execute {α : Type} (connection : Connection) (storage : Storage) (statement : Statement α) :
    Except Failure α × Connection × Storage :=
  if !connection.isOpen then (.error Database.closed, connection, storage)
  else
    match statement connection.tables with
    | .error failure => (.error failure, connection, storage)
    | .ok (value, tables) =>
      let stored := match connection.place with
        | .memory => storage
        | .file path => storage.keep path tables
      (.ok value, { connection with tables := tables }, stored)

/-- How the database is kept: whether references are checked, how carefully it is written, for how
many milliseconds a locked database is waited for, and what keeps its changes until they are
complete. -/
structure Pragmas where
  foreignKeys : Bool := true
  synchronous : Nat
  busyMillis : Nat := 5000
  journalMode : String
  deriving DecidableEq, Repr

/-- How the database of a connection is kept. -/
def pragmas? (connection : Connection) : Option Pragmas :=
  if !connection.isOpen then none
  else
    match connection.place with
    | .file _ => some { synchronous := 1, journalMode := "wal" }
    | .memory => some { synchronous := 2, journalMode := "memory" }

end Connection

end StompBroker
