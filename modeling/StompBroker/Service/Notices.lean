import StompBroker.Service.Handler

/-!
# Notices

A notice is for everybody or for a list of users. It is stored, and a job to deliver it is
submitted. Stored notices are listed page by page, the latest first.
-/

set_option autoImplicit false

namespace StompBroker

namespace Notice

/-- The target type of a notice for everybody. -/
def forAll : Int := 1

/-- The target type of a notice for a list of users. -/
def forUsers : Int := 2

/-- What the body of a new notice must hold. -/
def shape : Json.Shape :=
  .record
    [("title", .required, .text), ("content", .required, .text),
      ("targetType", .required, .integer minInt64 maxInt64),
      ("targetUsers", .defaulted, .list .text)]

/-- The names in a list of users. -/
def names (users : List String) : List String := (users.map Text.trim).filter (!·.isEmpty)

/-- Whom a new notice is for. -/
def audience (title : String) (targetType : Int) (users : List String) :
    Except Failure Audience :=
  if Text.allBlank title then .error (.validation "title must not be empty")
  else if targetType = forAll then .ok .all
  else if targetType = forUsers then
    match names users with
    | [] => .error (.validation "targetUsers is required when targetType is 2")
    | names => .ok (.users names)
  else .error (.validation ("unknown targetType " ++ toString targetType))

/-- The users of an audience as they are stored. -/
def storedUsers : Audience → Option String
  | .all => none
  | .users names => some (",".intercalate names)

/-- A stored notice as a document. -/
def toJson (id : Int) (notice : Notice) : Json :=
  .object [("id", .ofInt id), ("title", .string notice.title), ("content", .string notice.content),
    ("targetType", .ofInt notice.targetType),
    ("targetUsers", .ofOption .string notice.targetUsers), ("publisher", .string notice.publisher),
    ("publishTime", .ofInt notice.publishTime)]

/-- A stored notice as its readers get it. -/
def message (id : Int) (notice : Notice) : NoticeMessage :=
  { id, title := notice.title, content := notice.content, publisher := notice.publisher
    publishTime := notice.publishTime }

variable {σ : Type}

/-- Stores a notice and submits its delivery. -/
def publish (context : Context) (notice : Notice) (audience : Audience) (service : Service σ) :
    Except Failure Envelope × Service σ :=
  match context.execute (Tables.addNotice notice) service with
  | (.error failure, service) => (.error failure, service)
  | (.ok id, service) =>
    (.ok (.ok (.ofInt id)), (service.submit (.deliverNotice (notice.message id) audience)).2)

/-- Answers a new notice of a user. -/
def create (context : Context) (body : Json) (principal : Principal) (service : Service σ) :
    Except Failure Envelope × Service σ :=
  let title := body.textOf "title"
  let targetType := ((body.member? "targetType").bind Json.int?).getD 0
  let users := (((body.member? "targetUsers").bind Json.array?).getD []).filterMap Json.string?
  match audience title targetType users with
  | .error failure => (.error failure, service)
  | .ok audience =>
    let notice : Notice :=
      { title, content := body.textOf "content", targetType, targetUsers := storedUsers audience
        publisher := principal.username, publishTime := service.clock.millis }
    publish context notice audience service

/-- The endpoint for new notices. -/
def endpointNew : Handler σ :=
  .reading shape fun context body service ↦ Handler.known (create context body) context service

/-- Lists a page of notices. -/
def list (context : Context) (query : PageQuery) (service : Service σ) :
    Except Failure Envelope × Service σ :=
  let (result, service) := context.execute (Tables.pageOfNotices query.limit query.offset) service
  (result.map fun (total, notices) ↦
    .okPage (.array (notices.map fun (id, notice) ↦ toJson id notice))
      { total, pageNum := query.page, pageSize := query.limit }, service)

/-- The endpoint for the listing. -/
def endpointList : Handler σ := fun context request service ↦
  match PageQuery.ofTarget? request.query with
  | none => (.response ⟨400, .text "The query does not name a page"⟩, service)
  | some query => Handler.reply (list context query service)

end Notice

end StompBroker
