import StompBroker.Proofs.Service.Transaction
import StompBroker.Service.Router

/-!
# What the endpoints do, step by step

A `Routine` is a `Course` of which it is also known when it submits the delivery of a notice. That
is all that a routine does to the queue of jobs (`Routine.queue_run`), and it submits nothing else:
the entry about a request is never among its jobs.

A handler is `Planned` if it takes a routine for each request. All endpoints of the service do
(`Endpoint.planned_dispatch`): most of them leave the database and the queue alone altogether
(`Planned.of_spares`), a login and the listing of notices execute one statement, and a new notice is
inserted before it is announced (`Notice.routine`).
-/

set_option autoImplicit false

namespace StompBroker

variable {σ : Type}

/-! ### Submissions -/

namespace JobQueue

/-- The queue with more jobs behind those that wait. -/
def followedBy (queue : JobQueue) (jobs : List Job) : JobQueue :=
  { queue with waiting := queue.waiting ++ jobs }

@[simp]
theorem waiting_followedBy (queue : JobQueue) (jobs : List Job) :
    (queue.followedBy jobs).waiting = queue.waiting ++ jobs :=
  rfl

@[simp]
theorem followedBy_nil (queue : JobQueue) : queue.followedBy [] = queue := by
  rw [followedBy, List.append_nil]

theorem followedBy_followedBy (queue : JobQueue) (first second : List Job) :
    (queue.followedBy first).followedBy second = queue.followedBy (first ++ second) := by
  simp only [followedBy, List.append_assoc]

/-- The jobs among submissions that were taken. -/
def taken (submissions : List (Job × Bool)) : List Job := (submissions.filter (·.2)).map (·.1)

theorem taken_cons (submission : Job × Bool) (rest : List (Job × Bool)) :
    taken (submission :: rest) = taken [submission] ++ taken rest := by
  rw [← List.singleton_append, taken, List.filter_append, List.map_append]
  rfl

/-- A submission puts the job behind those that wait if the queue accepts it. -/
theorem submit_eq (queue : JobQueue) (job : Job) :
    queue.submit job = (queue.accepts, queue.followedBy (taken [(job, queue.accepts)])) := by
  unfold submit
  cases queue.accepts with
  | true => rfl
  | false => rw [if_neg Bool.false_ne_true, taken, List.filter_cons_of_neg Bool.false_ne_true,
      List.filter_nil, List.map_nil, followedBy_nil]

end JobQueue

namespace Service

theorem fst_submit (service : Service σ) (job : Job) :
    (service.submit job).1 = service.queue.accepts :=
  congrArg Prod.fst (service.queue.submit_eq job)

theorem queue_submit (service : Service σ) (job : Job) :
    (service.submit job).2.queue =
      service.queue.followedBy (JobQueue.taken [(job, (service.submit job).1)]) := by
  rw [fst_submit]
  exact congrArg Prod.snd (service.queue.submit_eq job)

/-- Nothing happens to the database, to the queue of jobs and to the worker. -/
structure Spares (before after : Service σ) : Prop where
  database : after.database = before.database
  queue : after.queue = before.queue
  working : after.working = before.working

theorem Spares.refl (service : Service σ) : service.Spares service := ⟨rfl, rfl, rfl⟩

end Service

/-! ### Routines -/

/-- What a handler does, with the deliveries that it submits. -/
inductive Routine (σ : Type) : Type 1 where
  | conclude (reply : Reply)
  | execute {α : Type} (statement : Statement α) (next : Except Failure α → Routine σ)
  /-- Submits a delivery, and learns whether it was taken. -/
  | announce (notice : NoticeMessage) (audience : Audience) (next : Bool → Routine σ)
  /-- Something that leaves the database, the queue and the worker alone. -/
  | act {α : Type} (effect : Service σ → α × Service σ)
      (spares : ∀ service, Service.Spares service (effect service).2) (next : α → Routine σ)

namespace Routine

/-- Takes a routine. -/
def run (context : Context) : Routine σ → Service σ → Reply × Service σ
  | conclude reply, service => (reply, service)
  | execute statement next, service =>
    let executed := context.execute statement service
    (next executed.1).run context executed.2
  | announce notice audience next, service =>
    let submitted := service.submit (.deliverNotice notice audience)
    (next submitted.1).run context submitted.2
  | act effect _ next, service =>
    let acted := effect service
    (next acted.1).run context acted.2

/-- The deliveries that a routine submits, and whether they are taken. -/
def announced (context : Context) : Routine σ → Service σ → List (Job × Bool)
  | conclude _, _ => []
  | execute statement next, service =>
    let executed := context.execute statement service
    (next executed.1).announced context executed.2
  | announce notice audience next, service =>
    let submitted := service.submit (.deliverNotice notice audience)
    (.deliverNotice notice audience, submitted.1) ::
      (next submitted.1).announced context submitted.2
  | act effect _ next, service =>
    let acted := effect service
    (next acted.1).announced context acted.2

/-- The routine as a course, to which a submission is one of the things that leave the database
alone. -/
def course : Routine σ → Course σ
  | conclude reply => .conclude reply
  | execute statement next => .execute statement fun result ↦ (next result).course
  | announce notice audience next =>
    .act (·.submit (.deliverNotice notice audience)) (fun _ ↦ rfl) fun taken ↦ (next taken).course
  | act effect spares next =>
    .act effect (fun service ↦ (spares service).database) fun value ↦ (next value).course

/-- The handler that takes a routine for each request. -/
def handler (plan : Context → Request → Routine σ) : Handler σ := fun context request service ↦
  (plan context request).run context service

theorem run_course (context : Context) (routine : Routine σ) (service : Service σ) :
    routine.course.run context service = routine.run context service := by
  induction routine generalizing service with
  | conclude reply => rfl
  | execute statement next ih => exact ih _ _
  | announce notice audience next ih => exact ih _ _
  | act effect spares next ih => exact ih _ _

theorem handler_eq_course (plan : Context → Request → Routine σ) :
    handler plan = Course.handler fun context request ↦ (plan context request).course := by
  funext context request service
  exact (run_course context (plan context request) service).symm

/-- The deliveries that are taken are all that a routine adds to the queue. -/
theorem queue_run (context : Context) (routine : Routine σ) (service : Service σ) :
    (routine.run context service).2.queue =
      service.queue.followedBy (JobQueue.taken (routine.announced context service)) := by
  induction routine generalizing service with
  | conclude reply => exact service.queue.followedBy_nil.symm
  | execute statement next ih => exact ih _ _
  | announce notice audience next ih =>
    rw [run, announced, ih, Service.queue_submit, JobQueue.followedBy_followedBy,
      ← JobQueue.taken_cons]
  | act effect spares next ih => rw [run, announced, ih, (spares service).queue]

/-- A routine does not start or end the worker. -/
theorem working_run (context : Context) (routine : Routine σ) (service : Service σ) :
    (routine.run context service).2.working = service.working := by
  induction routine generalizing service with
  | conclude reply => rfl
  | execute statement next ih => exact ih _ _
  | announce notice audience next ih => exact ih _ _
  | act effect spares next ih => exact (ih _ _).trans (spares service).working

/-- A routine that only comes to a reply. -/
def replying (outcome : Except Failure Envelope) : Routine σ :=
  .conclude (.response (.ofOutcome outcome))

end Routine

/-! ### Handlers that take routines -/

/-- The handler takes a routine for each request. -/
def Planned (handler : Handler σ) : Prop :=
  ∀ context request, ∃ routine : Routine σ,
    ∀ service, handler context request service = routine.run context service

theorem Planned.exists_plan {handler : Handler σ} (h : Planned handler) :
    ∃ plan, handler = Routine.handler plan := by
  have hchosen (context : Context) := Classical.axiomOfChoice (h context)
  obtain ⟨plan, hplan⟩ := Classical.axiomOfChoice hchosen
  exact ⟨plan, funext fun context ↦ funext fun request ↦ funext (hplan context request)⟩

theorem planned_handler (plan : Context → Request → Routine σ) : Planned (Routine.handler plan) :=
  fun context request ↦ ⟨plan context request, fun _ ↦ rfl⟩

/-- A handler that leaves the database and the queue alone does what it does in one step. -/
theorem Planned.of_spares {handler : Handler σ}
    (h : ∀ context request service, Service.Spares service (handler context request service).2) :
    Planned handler :=
  fun context request ↦
    ⟨.act (handler context request) (h context request) .conclude, fun _ ↦ rfl⟩

/-- So does one that needs the document in the body. -/
theorem Planned.of_reading_spares {shape : Json.Shape}
    {handle : Context → Json → Service σ → Except Failure Envelope × Service σ}
    (h : ∀ context document service, Service.Spares service (handle context document service).2) :
    Planned (Handler.reading shape handle) := by
  refine .of_spares fun context request service ↦ ?_
  unfold Handler.reading
  cases request.document shape with
  | error problem => exact .refl service
  | ok document => exact h context document service

namespace Messaging

theorem planned_health : Planned (health (σ := σ)) := .of_spares fun _ _ service ↦ .refl service

theorem planned_count : Planned (count (σ := σ)) := .of_spares fun _ _ service ↦ .refl service

theorem planned_online : Planned (online (σ := σ)) := .of_spares fun _ _ service ↦ .refl service

theorem planned_toAll : Planned (toAll (σ := σ)) := .of_reading_spares fun _ _ _ ↦ ⟨rfl, rfl, rfl⟩

theorem planned_toUser : Planned (toUser (σ := σ)) := by
  refine .of_reading_spares fun context document service ↦ ?_
  unfold Handler.known
  cases context.requirePrincipal with
  | error failure => exact .refl service
  | ok principal =>
    dsimp only
    split <;> exact ⟨rfl, rfl, rfl⟩

theorem planned_dictionary : Planned (dictionary (σ := σ)) := by
  refine .of_reading_spares fun context document service ↦ ?_
  split <;> exact ⟨rfl, rfl, rfl⟩

end Messaging

namespace Login

variable [LivenessStore σ]

/-- What a login does. -/
def routine (username password : String) : Routine σ :=
  if username.isEmpty || password.isEmpty then .replying (.error .badCredentials)
  else
    .execute (Tables.findUser username) fun
      | .error failure => .replying (.error failure)
      | .ok none => .replying (.error .badCredentials)
      | .ok (some (id, user)) =>
        match check password user with
        | .error failure => .replying (.error failure)
        | .ok () => .act (grant id username) (fun _ ↦ ⟨rfl, rfl, rfl⟩) .replying

theorem run_routine (context : Context) (username password : String) (service : Service σ) :
    (routine username password).run context service =
      Handler.reply (logIn context username password service) := by
  unfold routine logIn
  by_cases hempty : (username.isEmpty || password.isEmpty) = true
  · rw [if_pos hempty, if_pos hempty]
    rfl
  · rw [if_neg hempty, if_neg hempty, Routine.run]
    rcases context.execute (Tables.findUser username) service with
      ⟨failure | _ | ⟨id, user⟩, after⟩
    · rfl
    · rfl
    · dsimp only
      cases check password user with
      | error failure => rfl
      | ok _ => rfl

theorem planned_endpoint : Planned (endpoint (σ := σ)) := by
  intro context request
  unfold endpoint Handler.reading
  cases request.document shape with
  | error problem => exact ⟨.conclude (.response problem.response), fun _ ↦ rfl⟩
  | ok body => exact ⟨_, fun service ↦ (run_routine context _ _ service).symm⟩

theorem planned_endpointOut : Planned (endpointOut (σ := σ)) := by
  refine .of_spares fun context request service ↦ ?_
  unfold endpointOut Handler.known
  cases context.requirePrincipal with
  | error failure => exact .refl service
  | ok principal => exact ⟨rfl, rfl, rfl⟩

end Login

namespace Notice

/-- What becomes of a new notice and its audience: it is inserted, and announced under the id that
it got. -/
def publishing (notice : Notice) (audience : Audience) : Routine σ :=
  .execute (Tables.addNotice notice) fun
    | .error failure => .replying (.error failure)
    | .ok id =>
      .announce (notice.message id) audience fun _ ↦ .replying (.ok (.ok (.ofInt id)))

theorem run_publishing (context : Context) (notice : Notice) (audience : Audience)
    (service : Service σ) :
    (publishing notice audience).run context service =
      Handler.reply (publish context notice audience service) := by
  unfold publishing publish
  rw [Routine.run]
  rcases context.execute (Tables.addNotice notice) service with ⟨failure | id, after⟩ <;> rfl

/-- The users that the body of a new notice lists. -/
def listed (body : Json) : List String :=
  (((body.member? "targetUsers").bind Json.array?).getD []).filterMap Json.string?

/-- Whom the body of a new notice is for. -/
def addressed (body : Json) : Except Failure Audience :=
  audience (body.textOf "title") (((body.member? "targetType").bind Json.int?).getD 0) (listed body)

/-- The notice in the body of a request, as it is stored. -/
def drafted (body : Json) (audience : Audience) (publisher : String) (now : Int) : Notice :=
  { title := body.textOf "title", content := body.textOf "content"
    targetType := ((body.member? "targetType").bind Json.int?).getD 0
    targetUsers := storedUsers audience, publisher, publishTime := now }

/-- What the endpoint for new notices does. -/
def routine (context : Context) (request : Request) : Routine σ :=
  match request.document shape with
  | .error problem => .conclude (.response problem.response)
  | .ok body =>
    match context.requirePrincipal with
    | .error failure => .replying (.error failure)
    | .ok principal =>
      match addressed body with
      | .error failure => .replying (.error failure)
      | .ok audience =>
        .act (fun service ↦ (service.clock.millis, service)) .refl fun now ↦
          publishing (drafted body audience principal.username now) audience

theorem endpointNew_eq_handler : endpointNew (σ := σ) = Routine.handler routine := by
  funext context request service
  unfold endpointNew Handler.reading Routine.handler routine
  cases request.document shape with
  | error problem => rfl
  | ok body =>
    dsimp only [Handler.known]
    cases context.requirePrincipal with
    | error failure => rfl
    | ok principal =>
      dsimp only [create, addressed, listed]
      cases audience (body.textOf "title") _ _ with
      | error failure => rfl
      | ok audience => exact (run_publishing context _ audience service).symm

theorem planned_endpointNew : Planned (endpointNew (σ := σ)) :=
  endpointNew_eq_handler ▸ planned_handler routine

/-- What the listing does. -/
def listing (query : PageQuery) : Routine σ :=
  .execute (Tables.pageOfNotices query.limit query.offset) fun result ↦
    .replying (result.map fun (total, notices) ↦
      .okPage (.array (notices.map fun (id, notice) ↦ toJson id notice))
        { total, pageNum := query.page, pageSize := query.limit })

theorem planned_endpointList : Planned (endpointList (σ := σ)) := by
  intro context request
  unfold endpointList
  cases PageQuery.ofTarget? request.query with
  | none => exact ⟨.conclude _, fun _ ↦ rfl⟩
  | some query => exact ⟨listing query, fun _ ↦ rfl⟩

end Notice

namespace Endpoint

/-- A choice among handlers that take routines takes routines. -/
theorem planned_dispatch_of {endpoints : List (Endpoint σ)}
    (h : ∀ endpoint ∈ endpoints, Planned endpoint.handler) : Planned (dispatch endpoints) := by
  intro context request
  unfold dispatch
  cases hfound : endpoints.filter fun endpoint ↦ endpoint.path == request.path with
  | nil => exact ⟨.conclude (.response ⟨404, .empty⟩), fun _ ↦ rfl⟩
  | cons first rest =>
    cases htaking : (first :: rest).find? (takes request.method) with
    | none =>
      refine ⟨.conclude (.response ⟨405, .empty⟩), fun service ↦ ?_⟩
      simp only [htaking]
      rfl
    | some endpoint =>
      have hmem : endpoint ∈ endpoints := by
        have hchosen := List.mem_of_find?_eq_some htaking
        rw [← hfound] at hchosen
        exact (List.mem_filter.mp hchosen).1
      obtain ⟨routine, hroutine⟩ := h endpoint hmem context request
      refine ⟨routine, fun service ↦ ?_⟩
      rw [← hroutine service]
      simp only [htaking]

variable [LivenessStore σ]

/-- Every endpoint of the service takes routines. -/
theorem planned_dispatch : Planned (dispatch (all (σ := σ))) := by
  refine planned_dispatch_of fun endpoint hmem ↦ ?_
  simp only [all, List.mem_cons, List.not_mem_nil, or_false] at hmem
  rcases hmem with rfl | rfl | rfl | rfl | rfl | rfl | rfl | rfl | rfl | rfl
  · exact Messaging.planned_health
  · exact Login.planned_endpoint
  · exact Login.planned_endpointOut
  · exact Messaging.planned_toAll
  · exact Messaging.planned_toUser
  · exact Messaging.planned_online
  · exact Messaging.planned_count
  · exact Messaging.planned_dictionary
  · exact Notice.planned_endpointList
  · exact Notice.planned_endpointNew

end Endpoint

end StompBroker
