import StompBroker.Destination
import StompBroker.Http.RequestLog
import StompBroker.Http.Response
import StompBroker.Store.Tables

/-!
# Reports

What there is to know of failures, destinations, log events, responses and stored rows, as documents
for those who look after the service.
-/

set_option autoImplicit false

namespace StompBroker

/-- Everything that follows from a failure. -/
def Failure.report (failure : Failure) : Json :=
  .ofMembers
    [("kind", .string failure.name), ("display", .string failure.message),
      ("status", .ofNat failure.status), ("envelope", .string failure.envelopeCode),
      ("retryable", .bool failure.isRetryable),
      ("authFailure", .bool failure.isAuthenticationFailure), ("code", .string failure.code),
      ("category", .string failure.category.name), ("level", .string failure.level.text)]

/-- A refusal, and the response that carries it. -/
def Refusal.report (refusal : Refusal) : Json × Json :=
  (.object [("status", .ofNat refusal.status), ("code", .string refusal.code),
      ("message", .string refusal.message)],
    .object [("status", .ofNat refusal.status),
      ("body", .string refusal.toEnvelope.toJson.text)])

/-- The kind of a destination and what it names. -/
def Destination.report : Destination → Json
  | topic path => .object [("kind", .string "Topic"), ("dest", .string path)]
  | queue path => .object [("kind", .string "Queue"), ("dest", .string path)]
  | userQueue path => .object [("kind", .string "UserQueue"), ("dest", .string path)]
  | app path => .object [("kind", .string "App"), ("dest", .string path)]
  | other path => .object [("kind", .string "Other"), ("dest", .string path)]
  | userScoped username canonical =>
    .object [("kind", .string "UserScoped"), ("username", .string username),
      ("canonical", .string canonical)]

/-- A log event with all its fields. -/
def LogEvent.report (event : LogEvent) : Json :=
  .ofMembers ([("level", .string event.level.text), ("message", .string event.message)] ++
    event.fields.map fun field ↦ (field.1, Json.string field.2))

/-- A response as its client sees it; of a text only the fact. -/
def Response.report (response : Response) : Json × Json :=
  (.ofNat response.status,
    match response.content with
    | .empty => .null
    | .text _ => .string "<text>"
    | .document body => body)

namespace Tables

/-- The rows of a table in the order of their ids. -/
def rowsOf {α : Type} (row : Int → α → List Json) (table : Option (Table α)) : Json :=
  .array ((table.getD .empty).rows.map fun entry ↦ .array (row entry.1 entry.2))

/-- The entries of the log of requests. -/
def accessRows (tables : Tables) : Json :=
  rowsOf (fun _ entry ↦
    [.ofOption .string entry.username, .string entry.method, .string entry.path,
      .ofNat entry.status, .string entry.client, .ofInt entry.createTime]) tables.accesses

/-- The notices. -/
def noticeRows (tables : Tables) : Json :=
  rowsOf (fun id notice ↦
    [.ofInt id, .string notice.title, .string notice.content, .ofInt notice.targetType,
      .ofOption .string notice.targetUsers, .string notice.publisher,
      .ofInt notice.publishTime]) tables.notices

/-- The users. -/
def userRows (tables : Tables) : Json :=
  rowsOf (fun id user ↦
    [.ofInt id, .string user.username, .string user.nickname, .ofInt user.status,
      .ofInt user.createTime]) tables.users

/-- The marks. -/
def markRows (tables : Tables) : Json :=
  .array ((tables.marks.getD .empty).rows.map fun entry ↦ .string entry.2)

/-- The rows of the table of that name. -/
def rowsOfName (name : String) (tables : Tables) : Json :=
  match name with
  | "log" => tables.accessRows
  | "notice" => tables.noticeRows
  | "user" => tables.userRows
  | _ => tables.markRows

end Tables

end StompBroker
