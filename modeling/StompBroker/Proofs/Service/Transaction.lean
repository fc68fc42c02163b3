import StompBroker.Proofs.Store.Transaction
import StompBroker.Service.Gate

/-!
# Requests and their transactions

A `Course` is what a handler does: it executes statements through its context, sees what they come
to, does anything that leaves the database alone, and at some point replies or breaks off.
`Course.changes` are the changes of the statements that succeeded on the way. In a transaction they
make up the working tables (`database_run_of_working`), without one the stored tables
(`database_run_alone`).

What a request leaves behind follows (`atomic_inTransaction`). A request in a transaction leaves all
changes if its handler replied with success and they could be committed, and none in every other
case; a request without one leaves every change. A transaction is over with its request, and nobody
can execute a statement in it later.
-/

set_option autoImplicit false

namespace StompBroker

variable {σ : Type}

/-- What a handler does. -/
inductive Course (σ : Type) : Type 1 where
  | conclude (reply : Reply)
  | execute {α : Type} (statement : Statement α) (next : Except Failure α → Course σ)
  /-- Something that leaves the database alone. -/
  | act {α : Type} (effect : Service σ → α × Service σ)
      (keeps : ∀ service, (effect service).2.database = service.database) (next : α → Course σ)

namespace Course

/-- Takes a course. -/
def run (context : Context) : Course σ → Service σ → Reply × Service σ
  | conclude reply, service => (reply, service)
  | execute statement next, service =>
    let executed := context.execute statement service
    (next executed.1).run context executed.2
  | act effect _ next, service =>
    let acted := effect service
    (next acted.1).run context acted.2

/-- The changes of the statements that succeed on a course. -/
def changes (context : Context) : Course σ → Service σ → List (Tables → Tables)
  | conclude _, _ => []
  | execute statement next, service =>
    let executed := context.execute statement service
    Tables.changed statement executed.1 ++ (next executed.1).changes context executed.2
  | act effect _ next, service =>
    let acted := effect service
    (next acted.1).changes context acted.2

/-- The handler that takes a course for each request. -/
def handler (plan : Context → Request → Course σ) : Handler σ := fun context request service ↦
  (plan context request).run context service

variable {context : Context}

theorem database_execute_of_working {α : Type} {id : TransactionId} {tables : Tables}
    (hcontext : context.transaction = some id) {service : Service σ}
    (h : service.database.working = some (id, tables)) (statement : Statement α) :
    (context.execute statement service).2.database =
      service.database.withWorking
        (some (id,
          tables.replay (Tables.changed statement (context.execute statement service).1))) := by
  have hrun := Database.run_of_working h statement
  rw [← hcontext] at hrun
  exact hrun

theorem database_execute_alone {α : Type} (hcontext : context.transaction = none)
    (service : Service σ) (statement : Statement α) :
    (context.execute statement service).2.database =
      service.database.withTables
        (service.database.tables.replay
          (Tables.changed statement (context.execute statement service).1)) := by
  have hrun := service.database.run_alone statement
  rw [← hcontext] at hrun
  exact hrun

/-- In a transaction, a course makes its changes to the working tables. -/
theorem database_run_of_working {id : TransactionId} (hcontext : context.transaction = some id)
    (course : Course σ) {service : Service σ} {tables : Tables}
    (h : service.database.working = some (id, tables)) :
    (course.run context service).2.database =
      service.database.withWorking
        (some (id, tables.replay (course.changes context service))) := by
  induction course generalizing service tables with
  | conclude reply =>
    have hsame : service.database.withWorking service.database.working = service.database := rfl
    rw [run, changes, Tables.replay, List.foldl_nil, ← h, hsame]
  | execute statement next ih =>
    have hdatabase := database_execute_of_working hcontext h statement
    have hworking := congrArg Database.working hdatabase
    rw [run, changes, Tables.replay_append, ih _ hworking, hdatabase,
      Database.withWorking_withWorking]
  | act effect keeps next ih =>
    have hworking : (effect service).2.database.working = some (id, tables) := by
      rw [keeps, h]
    rw [run, changes, ih _ hworking, keeps]

/-- Without a transaction, a course makes its changes to the stored tables. -/
theorem database_run_alone (hcontext : context.transaction = none) (course : Course σ)
    (service : Service σ) :
    (course.run context service).2.database =
      service.database.withTables
        (service.database.tables.replay (course.changes context service)) := by
  induction course generalizing service with
  | conclude reply => rfl
  | execute statement next ih =>
    rw [run, changes, Tables.replay_append, ih, database_execute_alone hcontext,
      Database.withTables_withTables, Database.tables_withTables]
  | act effect keeps next ih => rw [run, changes, ih, keeps]

end Course

/-! ### The worker -/

namespace Service

/-- What may become of a service, as far as its database is concerned. -/
def Later (before after : Service σ) : Prop := Database.Later before.database after.database

theorem later_process (service : Service σ) (job : Job) : service.Later (service.process job) := by
  cases job with
  | logAccess entry => exact .single (.ran service.database none (Tables.addAccess entry))
  | deliverNotice notice audience => exact .refl

theorem later_workOnce (service : Service σ) : service.Later service.workOnce := by
  unfold workOnce
  cases service.queue.waiting with
  | nil => exact .refl
  | cons job rest =>
    exact later_process { service with queue := { service.queue with waiting := rest } } job

theorem later_work (service : Service σ) : service.Later service.work := by
  unfold work
  generalize service.queue.waiting = jobs
  induction jobs generalizing service with
  | nil => exact .refl
  | cons job jobs ih => exact (later_workOnce service).trans (ih service.workOnce)

theorem later_pause (service : Service σ) : service.Later service.pause := by
  unfold pause
  split
  · exact later_work service
  · exact .refl

/-- A worker that does not run, or finds no job, changes nothing. -/
theorem pause_of_idle {service : Service σ}
    (h : service.working = false ∨ service.queue.waiting = []) : service.pause = service := by
  unfold pause
  rcases h with hidle | hempty
  · rw [hidle]
    rfl
  · unfold work
    rw [hempty]
    split <;> rfl

end Service

/-! ### The end of a request -/

/-- The handler came to a response that is no failure. -/
def Reply.Succeeds : Reply → Prop
  | .response given => given.status < 400
  | .panicked _ => False

/-- The client gets the response of the handler, or an internal error if the handler broke off. -/
def Reply.AnsweredBy (answer : Response) : Reply → Prop
  | .response given => answer = given
  | .panicked _ => answer.status = 500

namespace Gate

/-- What the handler of a request in a transaction knows. -/
def inside (principal : Option Principal) (service : Service σ) : Context :=
  { principal, transaction := some ⟨service.database.nextTransaction⟩ }

/-- The service with a new transaction. -/
def opened (service : Service σ) : Service σ :=
  { service with database :=
    { service.database with
      working := some (⟨service.database.nextTransaction⟩, service.database.tables)
      nextTransaction := service.database.nextTransaction + 1 } }

/-- The service with these tables, once the transaction of a request is over. -/
def settled (service : Service σ) (tables : Tables) : Service σ :=
  { service with database := (service.database.withTables tables).withWorking none }

variable {request : Request} {principal : Option Principal} {service : Service σ}

theorem conclude_answeredBy (context : Context) (reply : Reply) (service : Service σ) :
    reply.AnsweredBy (conclude context reply service).1 := by
  cases reply with
  | response given => rfl
  | panicked reason => rfl

/-- Without a transaction nothing is left to do. -/
theorem conclude_alone {context : Context} (h : context.transaction = none) (reply : Reply)
    (service : Service σ) : (conclude context reply service).2 = service := by
  cases reply with
  | response given => simp only [conclude, rollback, commit, h, ite_self]
  | panicked reason => simp only [conclude, rollback, h]

/-- A transaction is committed after a success. -/
theorem conclude_of_succeeds {context : Context} {id : TransactionId}
    (h : context.transaction = some id) {reply : Reply} (hsucceeds : reply.Succeeds)
    (service : Service σ) :
    (conclude context reply service).2 =
      ({ service with database := service.database.commit.2 } : Service σ).pause := by
  cases reply with
  | response given =>
    have hfine : given.isFailure = false := decide_eq_false (Nat.not_le.mpr hsucceeds)
    simp only [conclude, hfine, commit, h]
    rfl
  | panicked reason => cases hsucceeds

/-- A transaction is rolled back after anything else. -/
theorem conclude_of_not_succeeds {context : Context} {id : TransactionId}
    (h : context.transaction = some id) {reply : Reply} (hfails : ¬reply.Succeeds)
    (service : Service σ) :
    (conclude context reply service).2 =
      ({ service with database := service.database.rollback } : Service σ).pause := by
  cases reply with
  | response given =>
    have hfailure : given.isFailure = true := decide_eq_true (Nat.not_lt.mp hfails)
    simp only [conclude, hfailure, rollback, h]
    rfl
  | panicked reason => simp only [conclude, rollback, h]

theorem inTransaction_alone (handler : Handler σ) (request : Request)
    (h : service.database.hasTransactions = false) (principal : Option Principal) :
    inTransaction handler request principal service =
      conclude { principal } (handler { principal } request service).1
        (handler { principal } request service).2 := by
  simp only [inTransaction, h, Bool.not_false, Bool.or_true, if_true]

theorem inTransaction_begun (handler : Handler σ) (hpath : request.path ≠ socketPath)
    (h : service.database.hasTransactions = true) (principal : Option Principal) :
    inTransaction handler request principal service =
      match service.database.begin with
      | .error failure => (.fail failure, service)
      | .ok (id, database) =>
        let served := handler { principal, transaction := some id } request
          { service with database := database }
        conclude { principal, transaction := some id } served.1 served.2 := by
  have hscope : ¬(request.path == socketPath || !service.database.hasTransactions) = true := by
    rw [h, beq_eq_false_iff_ne.mpr hpath]
    decide
  exact if_neg hscope

theorem inTransaction_opened (handler : Handler σ) (hpath : request.path ≠ socketPath)
    (h : service.database.hasTransactions = true) (hopen : service.database.isOpen = true)
    (principal : Option Principal) :
    inTransaction handler request principal service =
      let served := handler (inside principal service) request (opened service)
      conclude (inside principal service) served.1 served.2 := by
  have hbegin : service.database.begin =
      .ok (⟨service.database.nextTransaction⟩, (opened service).database) :=
    if_pos hopen
  rw [inTransaction_begun handler hpath h, hbegin]
  rfl

theorem inTransaction_closed (handler : Handler σ) (hpath : request.path ≠ socketPath)
    (h : service.database.hasTransactions = true) (hclosed : service.database.isOpen = false)
    (principal : Option Principal) :
    inTransaction handler request principal service = (.fail Database.closed, service) := by
  have hbegin : service.database.begin = .error Database.closed :=
    if_neg (by rw [hclosed]; decide)
  rw [inTransaction_begun handler hpath h, hbegin]

/-- What the handler of a request in a transaction comes to. -/
def served (plan : Context → Request → Course σ) (request : Request) (principal : Option Principal)
    (service : Service σ) : Reply × Service σ :=
  let context := inside principal service
  (plan context request).run context (opened service)

/-- The changes that the handler of a request makes in a transaction. -/
def changed (plan : Context → Request → Course σ) (request : Request) (principal : Option Principal)
    (service : Service σ) : List (Tables → Tables) :=
  let context := inside principal service
  (plan context request).changes context (opened service)

theorem inTransaction_served (plan : Context → Request → Course σ)
    (hpath : request.path ≠ socketPath) (h : service.database.hasTransactions = true)
    (hopen : service.database.isOpen = true) :
    inTransaction (Course.handler plan) request principal service =
      conclude (inside principal service) (served plan request principal service).1
        (served plan request principal service).2 :=
  inTransaction_opened (Course.handler plan) hpath h hopen principal

/-- The database as the handler of a request leaves it, before the transaction ends. -/
theorem database_served (plan : Context → Request → Course σ) (request : Request)
    (principal : Option Principal) (service : Service σ) :
    (served plan request principal service).2.database =
      (opened service).database.withWorking
        (some (⟨service.database.nextTransaction⟩,
          service.database.tables.replay (changed plan request principal service))) :=
  Course.database_run_of_working rfl _ rfl

/-- The request leaves these tables: its transaction is over, and only a worker that runs goes on
from there with the jobs that wait. -/
structure Leaves (handled : Service σ) (tables : Tables) (after : Service σ) : Prop where
  after_eq : after = (settled handled tables).pause
  of_idle : handled.working = false ∨ handled.queue.waiting = [] → after.database.tables = tables

theorem leaves_pause (handled : Service σ) (tables : Tables) :
    Leaves handled tables (settled handled tables).pause := by
  refine ⟨rfl, fun hidle ↦ ?_⟩
  have hsame : (settled handled tables).pause = settled handled tables :=
    Service.pause_of_idle hidle
  rw [hsame]
  rfl

/-- A request has all or nothing of its effect on the database. -/
structure Atomic (plan : Context → Request → Course σ) (request : Request)
    (principal : Option Principal) (service : Service σ) : Prop where
  /-- Without a connection no handler runs and nothing changes. -/
  refused : service.database.hasTransactions = true → service.database.isOpen = false →
    inTransaction (Course.handler plan) request principal service = (.fail Database.closed, service)
  /-- In a transaction, all changes of a success that can be committed are stored. -/
  stored : service.database.hasTransactions = true → service.database.isOpen = true →
    (served plan request principal service).1.Succeeds →
    (served plan request principal service).2.database.commit.1 = .ok () →
    Leaves (served plan request principal service).2
      (service.database.tables.replay (changed plan request principal service))
      (inTransaction (Course.handler plan) request principal service).2
  /-- Otherwise none are. -/
  dropped : service.database.hasTransactions = true → service.database.isOpen = true →
    ¬((served plan request principal service).1.Succeeds ∧
      (served plan request principal service).2.database.commit.1 = .ok ()) →
    Leaves (served plan request principal service).2 service.database.tables
      (inTransaction (Course.handler plan) request principal service).2
  /-- The response is that of the handler, however the commit ends. -/
  answered : service.database.hasTransactions = true → service.database.isOpen = true →
    (served plan request principal service).1.AnsweredBy
      (inTransaction (Course.handler plan) request principal service).1
  /-- Without transactions every change is stored. -/
  direct : service.database.hasTransactions = false →
    (inTransaction (Course.handler plan) request principal service).2.database.tables =
      service.database.tables.replay
        ((plan { principal } request).changes { principal } service)
  /-- Without transactions, the response is that of the handler, too. -/
  answeredDirect : service.database.hasTransactions = false →
    ((plan { principal } request).run { principal } service).1.AnsweredBy
      (inTransaction (Course.handler plan) request principal service).1
  /-- Whoever keeps the context of a request in a transaction executes nothing with it later. -/
  ended : service.database.hasTransactions = true → service.database.isOpen = true →
    ∀ later : Service σ,
      (inTransaction (Course.handler plan) request principal service).2.Later later →
      ∀ {α : Type} (statement : Statement α),
        (inside principal service).execute statement later = (.error Database.finished, later)

/-- A success whose changes can be committed leaves the working tables. -/
theorem leaves_of_stored {context : Context} {id : TransactionId}
    (hcontext : context.transaction = some id) {handled : Service σ} {tables : Tables}
    (hworking : handled.database.working = some (id, tables)) {reply : Reply}
    (hsucceeds : reply.Succeeds) (hok : handled.database.commit.1 = .ok ()) :
    Leaves handled tables (conclude context reply handled).2 := by
  rw [conclude_of_succeeds hcontext hsucceeds, Database.commit_of_ok hworking hok]
  exact leaves_pause handled tables

/-- Anything else leaves the stored tables. -/
theorem leaves_of_dropped {context : Context} {id : TransactionId}
    (hcontext : context.transaction = some id) {handled : Service σ} {tables : Tables}
    (hworking : handled.database.working = some (id, tables)) {reply : Reply}
    (hfails : ¬(reply.Succeeds ∧ handled.database.commit.1 = .ok ())) :
    Leaves handled handled.database.tables (conclude context reply handled).2 := by
  by_cases hsucceeds : reply.Succeeds
  · have hrefused : handled.database.commit.1 ≠ .ok () := fun hok ↦ hfails ⟨hsucceeds, hok⟩
    rw [conclude_of_succeeds hcontext hsucceeds, Database.commit_of_ne_ok hworking hrefused]
    exact leaves_pause handled handled.database.tables
  · rw [conclude_of_not_succeeds hcontext hsucceeds]
    exact leaves_pause handled handled.database.tables

/-- The transaction is over in any case. -/
theorem exists_leaves_conclude (context : Context) {id : TransactionId}
    (hcontext : context.transaction = some id) {handled : Service σ} {tables : Tables}
    (hworking : handled.database.working = some (id, tables)) (reply : Reply) :
    ∃ left, Leaves handled left (conclude context reply handled).2 := by
  by_cases hstored : reply.Succeeds ∧ handled.database.commit.1 = .ok ()
  · exact ⟨tables, leaves_of_stored hcontext hworking hstored.1 hstored.2⟩
  · exact ⟨_, leaves_of_dropped hcontext hworking hstored⟩

/-- The transaction of a request is over with the request. -/
theorem over_inTransaction (plan : Context → Request → Course σ) (hpath : request.path ≠ socketPath)
    (h : service.database.hasTransactions = true) (hopen : service.database.isOpen = true)
    (principal : Option Principal) :
    Database.Over ⟨service.database.nextTransaction⟩
      (inTransaction (Course.handler plan) request principal service).2.database := by
  have hdatabase := database_served plan request principal service
  have hnext : (served plan request principal service).2.database.nextTransaction =
      service.database.nextTransaction + 1 := by
    rw [hdatabase]
    rfl
  obtain ⟨tables, hleaves⟩ := exists_leaves_conclude (inside principal service) rfl
    (congrArg Database.working hdatabase) (served plan request principal service).1
  rw [inTransaction_served plan hpath h hopen, hleaves.after_eq]
  refine Database.Over.of_later ⟨?_, fun _ hnone ↦ by cases hnone⟩ (Service.later_pause _)
  exact hnext ▸ Nat.lt_succ_self service.database.nextTransaction

/-- Every request to another path than that of sessions is atomic, whatever its handler does. -/
theorem atomic_inTransaction (plan : Context → Request → Course σ) {request : Request}
    (hpath : request.path ≠ socketPath) (principal : Option Principal) (service : Service σ) :
    Atomic plan request principal service := by
  have hdatabase := database_served plan request principal service
  have hworking := congrArg Database.working hdatabase
  have htables : (served plan request principal service).2.database.tables =
      service.database.tables := by
    rw [hdatabase]
    rfl
  constructor
  case refused =>
    intro h hclosed
    exact inTransaction_closed (Course.handler plan) hpath h hclosed principal
  case stored =>
    intro h hopen hsucceeds hok
    rw [inTransaction_served plan hpath h hopen]
    exact leaves_of_stored rfl hworking hsucceeds hok
  case dropped =>
    intro h hopen hfails
    rw [inTransaction_served plan hpath h hopen, ← htables]
    exact leaves_of_dropped rfl hworking hfails
  case answered =>
    intro h hopen
    rw [inTransaction_served plan hpath h hopen]
    exact conclude_answeredBy _ _ _
  case direct =>
    intro h
    rw [inTransaction_alone _ _ h, conclude_alone rfl, Course.handler,
      Course.database_run_alone rfl]
    rfl
  case answeredDirect =>
    intro h
    rw [inTransaction_alone _ _ h]
    exact conclude_answeredBy _ _ _
  case ended =>
    intro h hopen later hlater α statement
    have hover := over_inTransaction plan hpath h hopen principal
    have hrun := (hover.of_later hlater).run statement
    simp only [Context.execute, inside, hrun]

/-- A handler that left a mark and then breaks off has left nothing. -/
theorem atomic_inTransaction_panicked :
    let service : Service LivenessCache :=
      { Service.start {} ⟨1700000000000⟩ LivenessCache.empty with
        database := { tables := { marks := some .empty }, hasTransactions := true } }
    let request : Request := { method := "POST", path := "/api/v1/notices" }
    let plan : Context → Request → Course LivenessCache := fun _ _ ↦
      .execute (Tables.addMark "first") fun _ ↦ .conclude (.panicked "out of ink")
    request.path ≠ socketPath ∧ Atomic plan request none service ∧
      (changed plan request none service).length = 1 ∧
      (inTransaction (Course.handler plan) request none service).2.database.tables =
        service.database.tables := by
  intro service request plan
  have hpath : request.path ≠ socketPath := by decide
  have hatomic : Atomic plan request none service := atomic_inTransaction plan hpath none service
  have hleaves := hatomic.dropped rfl rfl fun hstored ↦ hstored.1
  exact ⟨hpath, hatomic, rfl, hleaves.of_idle (.inl rfl)⟩

end Gate

end StompBroker
