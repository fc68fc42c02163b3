import StompBroker.Proofs.Service.Publication

/-!
# Requests that only read the database

A handler runs in the transaction of its request or, where the service has none, without one
(`Gate.Scope`). A statement that only reads finds the same stored tables in both and leaves the
service as it is (`Gate.Scope.execute`). What a handler answers after nothing but such statements is
what the client gets, and apart from the cache and the entry about the request it might not have
been there (`answer_of_replies`).
-/

set_option autoImplicit false

namespace StompBroker

variable {σ : Type}

/-! ### What the worker leaves alone -/

namespace Service

theorem cache_process (service : Service σ) (job : Job) :
    (service.process job).cache = service.cache := by
  cases job with
  | logAccess entry => rfl
  | deliverNotice notice audience => rfl

theorem cache_workOnce (service : Service σ) : service.workOnce.cache = service.cache := by
  unfold workOnce
  cases service.queue.waiting with
  | nil => rfl
  | cons job rest =>
    exact cache_process { service with queue := { service.queue with waiting := rest } } job

theorem cache_work (service : Service σ) : service.work.cache = service.cache := by
  unfold work
  generalize service.queue.waiting = jobs
  induction jobs generalizing service with
  | nil => rfl
  | cons job jobs ih => exact (ih service.workOnce).trans (cache_workOnce service)

theorem cache_pause (service : Service σ) : service.pause.cache = service.cache := by
  unfold pause
  split
  · exact cache_work service
  · rfl

end Service

/-- A statement that only reads leaves the database as it is. -/
theorem Database.runAlone_of_reads {α : Type} {database : Database} (hopen : database.isOpen = true)
    {statement : Statement α} {value : α}
    (hreads : statement database.tables = .ok (value, database.tables)) :
    database.runAlone statement = (.ok value, database) := by
  have hconnected : ¬(!database.isOpen) = true := by
    rw [hopen]
    decide
  rw [Database.runAlone, if_neg hconnected, hreads]

namespace Gate

/-! ### With and without a transaction -/

/-- What the handler of a request knows, and the service as it finds it. -/
inductive Scope (principal : Option Principal) (service : Service σ) : Context → Service σ → Prop
  | alone (h : service.database.hasTransactions = false) :
    Scope principal service { principal } service
  | opened (h : service.database.hasTransactions = true) :
    Scope principal service (inside principal service) (opened service)

section Scopes

variable {principal : Option Principal} {service : Service σ} {context : Context}
  {found : Service σ}

theorem exists_scope {request : Request} (hpath : request.path ≠ socketPath)
    (hopen : service.database.isOpen = true) (principal : Option Principal) :
    ∃ context found, Scope principal service context found ∧ ∀ handler : Handler σ,
      inTransaction handler request principal service =
        conclude context (handler context request found).1 (handler context request found).2 := by
  cases htransactions : service.database.hasTransactions with
  | false =>
    exact ⟨_, _, .alone htransactions, fun handler ↦
      inTransaction_alone handler request htransactions principal⟩
  | true =>
    exact ⟨_, _, .opened htransactions, fun handler ↦
      inTransaction_opened handler hpath htransactions hopen principal⟩

theorem Scope.found_eq (h : Scope principal service context found) :
    found = { service with database := found.database } := by
  cases h <;> rfl

/-- A statement that only reads does so from the stored tables, and changes nothing. -/
theorem Scope.execute {α : Type} (h : Scope principal service context found)
    (hopen : service.database.isOpen = true) {statement : Statement α} {value : α}
    (hreads : statement service.database.tables = .ok (value, service.database.tables)) :
    context.execute statement found = (.ok value, found) := by
  cases h with
  | alone =>
    simp only [Context.execute, Database.run, Database.runAlone_of_reads hopen hreads]
  | opened =>
    simp only [Context.execute, inside, Gate.opened, Database.run, ne_eq, not_true_eq_false,
      if_false, hreads]

/-- The end of the transaction stores the cache, and the notices from before. -/
theorem Scope.conclude (h : Scope principal service context found) (response : Response)
    (cache : σ) :
    (Gate.conclude context (.response response) { found with cache := cache }).1 = response ∧
      (Gate.conclude context (.response response) { found with cache := cache }).2.cache = cache ∧
      (Gate.conclude context (.response response)
        { found with cache := cache }).2.database.tables.notices =
          service.database.tables.notices := by
  cases h with
  | alone =>
    rw [conclude_alone rfl]
    exact ⟨rfl, rfl, rfl⟩
  | opened =>
    let handled : Service σ := { Gate.opened service with cache := cache }
    have hworking : handled.database.working =
        some (⟨service.database.nextTransaction⟩, service.database.tables) := rfl
    have hleaves : Leaves handled service.database.tables
        (Gate.conclude (inside principal service) (.response response) handled).2 := by
      by_cases hstored : (Reply.response response).Succeeds ∧ handled.database.commit.1 = .ok ()
      · exact leaves_of_stored rfl hworking hstored.1 hstored.2
      · exact leaves_of_dropped rfl hworking hstored
    refine ⟨rfl, ?_, Notice.notices_of_leaves hleaves⟩
    rw [hleaves.after_eq, Service.cache_pause]
    rfl

end Scopes

/-! ### From the client to the handler and back -/

section Layers

variable [LivenessStore σ] {request : Request} {service ready : Service σ}
  {principal : Option Principal}

/-- The layers in front of a handler change nothing but the limiter and the cache. -/
theorem HandsOn.ready_eq (h : HandsOn request service principal ready) :
    ready = { service with limiter := ready.limiter, cache := ready.cache } := by
  have hverdict : (verdict request service).2 = ready := congrArg Prod.snd h.verdict_eq
  have hidentify (metered : Service σ) :
      (identify request metered).2 = { metered with cache := (identify request metered).2.cache } := by
    unfold identify
    split
    · rfl
    · split
      · rfl
      · rw [snd_judge]
  rw [← hverdict]
  rcases counted_cases request service with hlets | hexceeds | hbreaks
  · rw [verdict_of_lets hlets, hidentify (metered request service)]
    rfl
  · rw [verdict_of_exceeds hexceeds]
    rfl
  · rw [verdict_of_breaks hbreaks]
    rfl

/-- Of the cache and the database, the layers keep what they surround left. -/
theorem HandsOn.layered_eq (h : HandsOn request service principal ready)
    (inner : Request → Inner σ) :
    (layered inner request service).1 = some (inner request principal ready).1 ∧
      (layered inner request service).2.cache = (inner request principal ready).2.cache ∧
      (layered inner request service).2.database = (inner request principal ready).2.database := by
  rw [h inner]
  cases principal with
  | none => exact ⟨rfl, rfl, rfl⟩
  | some user => exact ⟨rfl, rfl, rfl⟩

end Layers

end Gate

open Gate (HandsOn Scope)

/-- The client of a handler that only reads gets what the handler answers. -/
theorem answer_of_replies [LivenessStore σ] {request : Request} {service ready : Service σ}
    {principal : Option Principal} {endpoint : Handler σ} {response : Response} {cache : σ}
    (hmethod : request.method ≠ "OPTIONS") (hpath : request.path ≠ Gate.socketPath)
    (hroute : ∀ context, Endpoint.dispatch Endpoint.all context request = endpoint context request)
    (hready : HandsOn request service principal ready) (hopen : ready.database.isOpen = true)
    (hreplies : ∀ context found, Scope principal ready context found →
      endpoint context request found = (.response response, { found with cache := cache })) :
    (Service.answer request service).1 = some (Service.trimmed request response) ∧
      (Service.answer request service).2.cache = cache ∧
      (Service.answer request service).2.database.tables.notices =
        ready.database.tables.notices := by
  have hanswer : Service.answer request service =
      ((Gate.layered (Gate.inTransaction (Endpoint.dispatch Endpoint.all)) request service).1.map
          (Service.trimmed request),
        (Gate.layered (Gate.inTransaction (Endpoint.dispatch Endpoint.all)) request service).2) := by
    have hsocket : (request.path == Gate.socketPath) = false := beq_eq_false_iff_ne.mpr hpath
    have hpreflight : (request.method == "OPTIONS") = false := beq_eq_false_iff_ne.mpr hmethod
    simp only [Service.answer, hpreflight, hsocket, Bool.false_eq_true, if_false]
    rfl
  obtain ⟨context, found, hscope, htransaction⟩ := Gate.exists_scope hpath hopen principal
  obtain ⟨hresponse, hcache, hdatabase⟩ := hready.layered_eq
    (Gate.inTransaction (Endpoint.dispatch Endpoint.all))
  rw [htransaction, hroute, hreplies context found hscope] at hresponse hcache hdatabase
  obtain ⟨hgiven, hkept, hnotices⟩ := hscope.conclude response cache
  rw [hanswer]
  refine ⟨?_, hcache.trans hkept, ?_⟩
  · rw [hresponse, hgiven, Option.map_some]
  · rw [hdatabase, hnotices]

end StompBroker
