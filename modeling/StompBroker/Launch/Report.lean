import StompBroker.Launch.Startup
import StompBroker.Logging.Document

/-!
# Reports on launches

What there is to know of the server of a cache, an open database, a command that was performed and
the files that it left behind, as documents for those who look after the service.
-/

set_option autoImplicit false

namespace StompBroker

/-- How the server of a cache is reached. -/
def CacheServer.report (server : CacheServer) : Json :=
  .object
    [("url", .string server.address), ("max", .ofNat server.maxConnections),
      ("minIdle", .ofOption .ofNat server.idleConnections),
      ("connect", .ofNat server.connectSeconds), ("idle", .ofOption .ofNat server.idleSeconds)]

/-- How a database is kept. -/
def Connection.Pragmas.report (pragmas : Connection.Pragmas) : Json :=
  .object
    [("foreign_keys", .ofNat (if pragmas.foreignKeys then 1 else 0)),
      ("synchronous", .ofNat pragmas.synchronous), ("busy_timeout", .ofNat pragmas.busyMillis),
      ("journal_mode", .string pragmas.journalMode)]

/-- What settings that cannot be read are called; the details come after it. -/
def unreadable : String := "Configuration error:"

/-- What could be seen of a command, without the details of unreadable settings; of one that was
misspelt only that. -/
def LaunchOutcome.report (outcome : LaunchOutcome) : Json :=
  let texts := (outcome.console.filterMap Json.string?).mergeSort (· ≤ ·)
  .object ([("exit", .ofNat outcome.exitCode), ("started", .bool outcome.started)] ++
    if outcome.exitCode = 2 then []
    else
      [("stderr", .string (Text.upTo unreadable outcome.errorText)),
        ("console", .array (texts.map .string))])

namespace Storage

/-- The names of log files and databases. -/
def keptNames (storage : Storage) : List String :=
  storage.files.names.filter fun name ↦
    Text.endsWith LogOutput.dateEnding name || Text.endsWith ".db" name

/-- The tables of the first database. -/
def firstTables? (storage : Storage) : Option Tables :=
  (storage.keptNames.find? (Text.endsWith ".db")).bind fun name ↦
    storage.databases.lookup (Path.ofText name)

/-- The names of the files that were left behind, and the users in the first database. -/
def report (storage : Storage) : List (String × Json) :=
  let row (entry : Int × User) : Json :=
    .array [.ofInt entry.1, .string entry.2.username, .string entry.2.nickname,
      .ofInt entry.2.status]
  ("files", .array (storage.keptNames.map .string)) :: storage.firstTables?.toList.map fun tables ↦
    ("users", .array ((tables.users.getD .empty).rows.map row))

end Storage

end StompBroker
