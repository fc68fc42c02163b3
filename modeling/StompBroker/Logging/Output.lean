import StompBroker.Disk.Files
import StompBroker.Logging.Filter
import StompBroker.Logging.Record
import StompBroker.Settings.Basic
import StompBroker.Text.Quoted

/-!
# Where log records go

A `LogPlan` says where records are written: to the console, and if there is a folder for them, to
two files, one for records about requests and one for all others. `LogPlan.start` makes the folder
and the files. A `LogOutput` is a log that has been started, with the records that passed its
filter.
-/

set_option autoImplicit false

namespace StompBroker

/-- How records are written. -/
structure LogPlan where
  service : String := "herald"
  /-- The folder for the files. -/
  directory : Option String := some "logs"
  level : Level := .info
  /-- The file for all but requests holds documents. -/
  json : Bool := false
  colour : Bool := true
  /-- There is a file for requests. -/
  hasRequestFile : Bool := true
  deriving Repr

/-- A log that has been started. -/
structure LogOutput where
  plan : LogPlan
  filter : LogFilter
  records : List LogRecord := []
  deriving Repr

/-- The target of records about requests. -/
def requestTarget : String := "api_access"

namespace LogOutput

/-- Writes a record if it passes the filter. -/
def write (output : LogOutput) (record : LogRecord) : LogOutput :=
  if output.filter.enables record.target record.level then
    { output with records := output.records ++ [record] }
  else output

/-- The lines of texts that each end a line. -/
def linesOf (texts : List String) : List Json :=
  texts.flatMap fun text ↦ (Text.split '\n' text).map .string

/-- The lines on the console. -/
def console (output : LogOutput) : List Json :=
  linesOf (output.records.map (LogRecord.text output.plan.colour))

/-- The lines of the file for all but requests. -/
def mainLines (output : LogOutput) : List Json :=
  let records := output.records.filter fun record ↦ record.target != requestTarget
  if output.plan.json then records.map LogRecord.toJson
  else linesOf (records.map (LogRecord.text false))

/-- The lines of the file for requests. -/
def requestLines (output : LogOutput) : List Json :=
  let records := output.records.filter fun record ↦ record.target == requestTarget
  linesOf (records.map (LogRecord.text false))

/-- What ends the name of a file, in the place of the date. -/
def dateEnding : String := ".<date>"

/-- The files by name, with their lines. -/
def files (output : LogOutput) : List (String × List Json) :=
  match output.plan.directory with
  | none => []
  | some directory =>
    let name (ending : String) : String :=
      Path.text (Path.ofText directory ++ [output.plan.service ++ ending ++ ".log" ++ dateEnding])
    (name "", output.mainLines) ::
      if output.plan.hasRequestFile then [(name "_api", output.requestLines)] else []

end LogOutput

namespace LogPlan

/-- The filter of a plan, unless the environment names another. -/
def filter (plan : LogPlan) (environment : List (String × String)) : LogFilter :=
  match environment.lookup "RUST_LOG" with
  | some text => if Text.allBlank text then .upTo plan.level else .parse text
  | none => .upTo plan.level

/-- The record about the start of a log. -/
def startRecord (plan : LogPlan) : LogRecord :=
  { target := "common::logging"
    message := "Logging: " ++ plan.service ++
      match plan.directory with
      | some directory => " @ " ++ Text.quoted directory
      | none => " (console only)" }

/-- Starts a log. -/
def start (plan : LogPlan) (environment : List (String × String)) (files : Files) :
    Except FolderProblem (LogOutput × Files) := do
  let files ← match plan.directory with
    | none => .ok files
    | some directory => files.makeFolder (Path.ofText directory)
  let output : LogOutput := { plan, filter := plan.filter environment }
  let files := output.files.foldl (fun files file ↦ files.touch (Path.ofText file.1)) files
  return (output.write plan.startRecord, files)

/-- A plan for the console alone, with a level that may be misspelt. -/
def onConsole (level : String) : LogPlan :=
  { directory := none, level := (Level.parse? level).getD .info }

/-- The plan of a service by its settings; the environment may name another folder. -/
def ofSettings (service : String) (settings : LogSettings) (colour : Bool)
    (environment : List (String × String)) : LogPlan :=
  let root := (environment.lookup "HERALD_LOG_DIR").getD (settings.directory.getD "logs")
  let directory :=
    if root.isEmpty || Text.startsWith "/" service then service
    else if Text.endsWith "/" root then root ++ service else root ++ "/" ++ service
  { service, directory := some directory, level := (Level.parse? settings.level).getD .info
    json := settings.json, colour }

end LogPlan

end StompBroker
