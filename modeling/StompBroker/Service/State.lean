import StompBroker.Broker.Client
import StompBroker.Http.RequestLog
import StompBroker.Password
import StompBroker.RateLimit
import StompBroker.Service.Job
import StompBroker.Settings.Basic
import StompBroker.Store.Database

/-!
# The state of the service

A `Service` is everything that a request or a session may read or change: the broker, the database,
the rate limiter, the cache of live tokens and the queue of background jobs. It is generic in the
cache.

Jobs are processed by `work`, one after the other and in the order in which they were submitted; a
job that fails is over. While the service waits for the database, a running worker goes on: that is
what `pause` stands for.
-/

set_option autoImplicit false

namespace StompBroker

/-- The state of the service. -/
structure Service (σ : Type) where
  settings : Settings
  clock : Clock
  cache : σ
  broker : Broker := {}
  /-- The application endpoints of the broker. -/
  routes : Routes AppHandler := AppHandler.defaults
  limiter : RateLimiter Float
  database : Database
  queue : JobQueue
  /-- The worker takes jobs as soon as it can. -/
  working : Bool := false
  logLevel : Level := .info
  /-- What was logged about requests. -/
  log : List LogEvent := []

namespace Service

variable {σ : Type}

/-- The service at its start. -/
def start (settings : Settings) (clock : Clock) (cache : σ) : Service σ :=
  { settings, clock, cache
    limiter := .ofSettings settings.rate
    database :=
      { tables := Tables.prepare {}
        hasTransactions := settings.database.transactions.getD false }
    queue := .ofCapacity settings.queueCapacity }

/-- Who signs the tokens of the service. -/
def auth (service : Service σ) : Authenticator :=
  .ofIssuer service.settings.name service.settings.token.secret service.settings.token.lifetime

/-- What the broker works with. -/
def setting (service : Service σ) : Broker.Setting :=
  { auth := service.auth, clock := service.clock, routes := service.routes
    writeTimeout := service.settings.broker.writeMillis }

/-- Runs an operation of the broker. -/
def withBroker {α : Type} (service : Service σ) (operate : Broker.Setting → Broker → α × Broker) :
    α × Service σ :=
  let (result, broker) := operate service.setting service.broker
  (result, { service with broker := broker })

/-- Changes the state of the broker. -/
def changeBroker (service : Service σ) (change : Broker.Setting → Broker → Broker) : Service σ :=
  { service with broker := change service.setting service.broker }

/-! ### Background jobs -/

/-- Submits a job, and tells whether it was taken. -/
def submit (service : Service σ) (job : Job) : Bool × Service σ :=
  let (taken, queue) := service.queue.submit job
  (taken, { service with queue := queue })

/-- Processes a job. -/
def process (service : Service σ) : Job → Service σ
  | .logAccess entry =>
    { service with database := (service.database.runAlone (Tables.addAccess entry)).2 }
  | .deliverNotice notice audience =>
    service.changeBroker fun setting broker ↦ (broker.deliverNotice setting notice audience).2

/-- Processes the first of the jobs that wait. -/
def workOnce (service : Service σ) : Service σ :=
  match service.queue.waiting with
  | [] => service
  | job :: rest => { service with queue := { service.queue with waiting := rest } }.process job

/-- Processes all jobs that wait. -/
def work (service : Service σ) : Service σ :=
  service.queue.waiting.foldl (fun service _ ↦ service.workOnce) service

/-- Lets a running worker go on. -/
def pause (service : Service σ) : Service σ := if service.working then service.work else service

/-- Lets the worker run from now on. -/
def runWorker (service : Service σ) : Service σ := { service with working := true }.work

/-- Ends the worker once everything is done. -/
def stopWorker (service : Service σ) : Service σ :=
  let service := service.work
  { service with working := false, queue := { service.queue with stopped := true } }

/-! ### The database -/

/-- Executes a statement on its own. -/
def execute {α : Type} (service : Service σ) (statement : Statement α) :
    Except Failure α × Service σ :=
  let (result, database) := service.database.runAlone statement
  (result, { service with database := database })

/-- Closes the database after everything is done. -/
def closeDatabase (service : Service σ) : Service σ :=
  let service := service.pause
  { service with database := { service.database with isOpen := false } }

/-- Adds a user with a password. -/
def addUser (service : Service σ) (username password : String) (status : Int) (salt : Bytes) :
    Except Failure Int × Service σ :=
  service.execute (Tables.addUser none
    { username, nickname := username, password := PasswordHash.create password salt, status
      createTime := service.clock.millis })

/-- The name of the first user. -/
def adminName : String := "admin"

/-- The password that the first user starts with. -/
def adminPassword : String := "123456"

/-- Adds the first user unless there is one of that name, and tells whether that was done. -/
def seedUsers (clock : Clock) (salt : Bytes) : Statement Bool := fun tables ↦ do
  match ← Tables.findUser adminName tables with
  | (some _, tables) => return (false, tables)
  | (none, tables) =>
    let admin : User :=
      { username := adminName, nickname := "System Administrator"
        password := PasswordHash.create adminPassword salt, status := User.enabled
        createTime := clock.millis }
    let (_, tables) ← Tables.addUser none admin tables
    return (true, tables)

/-- Adds the first user unless there is one of that name. -/
def seedAdmin (service : Service σ) (salt : Bytes) : Except Failure Bool × Service σ :=
  service.execute (seedUsers service.clock salt)

end Service

end StompBroker
