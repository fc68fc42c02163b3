import StompBroker.Proofs.Service.Credentials
import StompBroker.Proofs.Service.Routine

/-!
# Notices that are stored, and notices that are delivered

A new notice is inserted in the transaction of its request, and its delivery is submitted by the
handler, that is, before it is known whether the transaction can be committed. `handed` are the
deliveries that the handler of a request submits.

There is at most one, of the row that was inserted, and none if no row was (`routine_cases`). A
transaction that is committed leaves that row. One that cannot be committed takes it back, but not
the delivery, and so a delivery is of a stored notice exactly if the transaction was committed
(`publication_of_answer`).
-/

set_option autoImplicit false

namespace StompBroker

variable {σ : Type}

/-! ### Stored notices -/

namespace Tables

/-- The stored notices with their ids. -/
def published (tables : Tables) : List (Int × Notice) := (tables.notices.getD .empty).rows

theorem published_congr {tables other : Tables} (h : tables.notices = other.notices) :
    tables.published = other.published := by
  rw [published, published, h]

/-- A notice gets the next id. -/
theorem addNotice_eq_ok {notice : Notice} {tables after : Tables} {id : Int}
    (h : addNotice notice tables = .ok (id, after)) :
    ∃ table, tables.notices = some table ∧ id = table.lastId + 1 ∧
      after = { tables with notices := some (table.insert notice).2 } := by
  cases hnotices : tables.notices with
  | none =>
    simp only [addNotice, hnotices, require] at h
    cases h
  | some table =>
    simp only [addNotice, hnotices, require] at h
    cases h
    exact ⟨table, rfl, rfl, rfl⟩

theorem mem_published_of_addNotice {notice : Notice} {tables after : Tables} {id : Int}
    (h : addNotice notice tables = .ok (id, after)) (entry : Int × Notice) :
    entry ∈ after.published ↔ entry = (id, notice) ∨ entry ∈ tables.published := by
  obtain ⟨table, htable, rfl, rfl⟩ := addNotice_eq_ok h
  rw [published, published, htable]
  exact Table.mem_rows_insert

/-- No notice has the id that the next one gets. -/
theorem not_mem_published_of_addNotice {notice : Notice} {tables after : Tables} {id : Int}
    (h : addNotice notice tables = .ok (id, after)) (other : Notice) :
    (id, other) ∉ tables.published := by
  obtain ⟨table, htable, rfl, -⟩ := addNotice_eq_ok h
  rw [published, htable]
  exact fun hmem ↦ table.ne_lastId_add_one _ hmem rfl

theorem notices_apply_addAccess (entry : AccessEntry) (tables : Tables) :
    (apply (addAccess entry) tables).notices = tables.notices := by
  unfold apply addAccess
  cases tables.accesses with
  | none => rfl
  | some table => rfl

end Tables

/-! ### The worker stores no notices -/

namespace Service

theorem notices_process (service : Service σ) (job : Job) :
    (service.process job).database.tables.notices = service.database.tables.notices := by
  cases job with
  | logAccess entry =>
    have hran := service.database.run_alone (Tables.addAccess entry)
    have htables := congrArg (fun database : Database ↦ database.tables.notices) hran
    refine htables.trans ?_
    rw [Database.tables_withTables]
    cases (service.database.run none (Tables.addAccess entry)).1 with
    | error failure => rfl
    | ok _ => exact Tables.notices_apply_addAccess entry service.database.tables
  | deliverNotice notice audience => rfl

theorem notices_workOnce (service : Service σ) :
    service.workOnce.database.tables.notices = service.database.tables.notices := by
  unfold workOnce
  cases service.queue.waiting with
  | nil => rfl
  | cons job rest =>
    exact notices_process { service with queue := { service.queue with waiting := rest } } job

theorem notices_work (service : Service σ) :
    service.work.database.tables.notices = service.database.tables.notices := by
  unfold work
  generalize service.queue.waiting = jobs
  induction jobs generalizing service with
  | nil => rfl
  | cons job jobs ih => exact (ih service.workOnce).trans (notices_workOnce service)

theorem notices_pause (service : Service σ) :
    service.pause.database.tables.notices = service.database.tables.notices := by
  unfold pause
  split
  · exact notices_work service
  · rfl

end Service

namespace Notice

/-! ### What the handler may do -/

/-- A routine announces this notice, which it has inserted under this id. -/
structure Announces (context : Context) (routine : Routine σ) (service : Service σ)
    (notice : Notice) (audience : Audience) (id : Int) : Prop where
  inserted : (context.execute (Tables.addNotice notice) service).1 = .ok id
  announced : routine.announced context service =
    [(.deliverNotice (notice.message id) audience, service.queue.accepts)]
  changes : routine.course.changes context service = [Tables.apply (Tables.addNotice notice)]
  replied : (routine.run context service).1 = .response (.ok (.ok (.ofInt id)))

/-- A routine neither announces nor changes anything. -/
structure Declines (context : Context) (routine : Routine σ) (service : Service σ) : Prop where
  announced : routine.announced context service = []
  changes : routine.course.changes context service = []

theorem publishing_cases (context : Context) (notice : Notice) (audience : Audience)
    (service : Service σ) :
    Declines context (publishing notice audience) service ∨
      ∃ id, Announces context (publishing notice audience) service notice audience id := by
  cases hinserted : (context.execute (Tables.addNotice notice) service).1 with
  | error failure =>
    refine .inl ⟨?_, ?_⟩
    · simp only [publishing, Routine.announced, hinserted]
      rfl
    · simp only [publishing, Routine.course, Course.changes, hinserted]
      rfl
  | ok id =>
    refine .inr ⟨id, hinserted, ?_, ?_, ?_⟩
    · simp only [publishing, Routine.announced, hinserted, Service.fst_submit]
      rfl
    · simp only [publishing, Routine.course, Course.changes, hinserted]
      rfl
    · simp only [publishing, Routine.run, hinserted]
      rfl

/-- The handler of a request for a new notice inserts one and announces it, or does nothing. -/
theorem routine_cases (context : Context) (request : Request) (service : Service σ) :
    Declines context (routine context request) service ∨
      ∃ notice audience id,
        Announces context (routine context request) service notice audience id := by
  unfold routine
  cases request.document shape with
  | error problem => exact .inl ⟨rfl, rfl⟩
  | ok body =>
    cases context.requirePrincipal with
    | error failure => exact .inl ⟨rfl, rfl⟩
    | ok principal =>
      dsimp only
      cases addressed body with
      | error failure => exact .inl ⟨rfl, rfl⟩
      | ok audience =>
        let notice := drafted body audience principal.username service.clock.millis
        rcases publishing_cases context notice audience service with hnone | ⟨id, hone⟩
        · exact .inl ⟨hnone.announced, hnone.changes⟩
        · exact .inr ⟨notice, audience, id, hone.inserted, hone.announced, hone.changes,
            hone.replied⟩

/-! ### The transaction of a request for a new notice -/

open Gate (inside opened HandsOn)

/-- The handler of new notices as a course. -/
def course (context : Context) (request : Request) : Course σ := (routine context request).course

theorem endpointNew_eq_course : endpointNew (σ := σ) = Course.handler course :=
  endpointNew_eq_handler.trans (Routine.handler_eq_course routine)

theorem fst_execute_opened {α : Type} (principal : Option Principal) (service : Service σ)
    (statement : Statement α) :
    ((inside principal service).execute statement (opened service)).1 =
      (statement service.database.tables).map Prod.fst := by
  simp only [Context.execute, inside, opened, Database.run, ne_eq, not_true_eq_false, if_false]
  cases statement service.database.tables with
  | error failure => rfl
  | ok outcome => rfl

section Request

variable (request : Request) (principal : Option Principal) (service : Service σ)

/-- What the handler of a request for a new notice comes to, before its transaction ends. -/
def handled : Reply × Service σ := Gate.served course request principal service

/-- The deliveries that the handler submits, and whether they are taken. -/
def handed : List (Job × Bool) :=
  if service.database.isOpen then
    (routine (inside principal service) request).announced (inside principal service)
      (opened service)
  else []

/-- The transaction of the request can be committed. -/
def Committed : Prop := (handled request principal service).2.database.commit.1 = .ok ()

/-- The service once the transaction of the request has ended. -/
def settled : Service σ := (Gate.inTransaction endpointNew request principal service).2

end Request

/-- How a request for a new notice ends, and which notices are stored then. -/
inductive Ending (request : Request) (principal : Option Principal) (service : Service σ)
    (notices : Option (Table Notice)) : Prop
  /-- Nothing was inserted. -/
  | declined (hhanded : handed request principal service = [])
    (hnotices : notices = service.database.tables.notices)
  /-- A notice was inserted, handed over and stored. -/
  | stored {notice : Notice} (audience : Audience) {id : Int} {after : Tables}
    (hadded : Tables.addNotice notice service.database.tables = .ok (id, after))
    (hhanded : handed request principal service =
      [(.deliverNotice (notice.message id) audience, service.queue.accepts)])
    (hcommitted : Committed request principal service) (hnotices : notices = after.notices)
  /-- A notice was inserted and handed over, but not stored. -/
  | lost {notice : Notice} (audience : Audience) {id : Int} {after : Tables}
    (hadded : Tables.addNotice notice service.database.tables = .ok (id, after))
    (hhanded : handed request principal service =
      [(.deliverNotice (notice.message id) audience, service.queue.accepts)])
    (hlost : ¬Committed request principal service)
    (hnotices : notices = service.database.tables.notices)

section Endings

variable {request : Request} {principal : Option Principal} {service : Service σ}

theorem handed_of_open (hopen : service.database.isOpen = true) :
    handed request principal service =
      (routine (inside principal service) request).announced (inside principal service)
        (opened service) :=
  if_pos hopen

/-- A request that cannot open a transaction does nothing. -/
theorem settled_of_closed (hpath : request.path ≠ Gate.socketPath)
    (h : service.database.hasTransactions = true) (hclosed : service.database.isOpen = false) :
    settled request principal service = service :=
  congrArg Prod.snd (Gate.inTransaction_closed endpointNew hpath h hclosed principal)

theorem handed_of_closed (hclosed : service.database.isOpen = false) :
    handed request principal service = [] :=
  if_neg (Bool.eq_false_iff.mp hclosed)

theorem handled_eq : handled request principal service =
    (routine (inside principal service) request).run (inside principal service)
      (opened service) :=
  Routine.run_course _ _ _

/-- A request leaves the tables that its handler worked on if that can be committed, and the ones
from before otherwise. -/
theorem leaves_settled (hpath : request.path ≠ Gate.socketPath)
    (h : service.database.hasTransactions = true) (hopen : service.database.isOpen = true) :
    Gate.Leaves (handled request principal service).2
        (service.database.tables.replay (Gate.changed course request principal service))
        (settled request principal service) ∧
      (handled request principal service).1.Succeeds ∧ Committed request principal service ∨
    Gate.Leaves (handled request principal service).2 service.database.tables
        (settled request principal service) ∧
      ¬((handled request principal service).1.Succeeds ∧
        Committed request principal service) := by
  have hdatabase := Gate.database_served course request principal service
  have hworking := congrArg Database.working hdatabase
  have htables := congrArg Database.tables hdatabase
  have hsettled : settled request principal service =
      (Gate.conclude (inside principal service) (handled request principal service).1
        (handled request principal service).2).2 := by
    unfold settled
    rw [endpointNew_eq_course, Gate.inTransaction_served course hpath h hopen]
    rfl
  rw [hsettled]
  by_cases hstored : (handled request principal service).1.Succeeds ∧
    Committed request principal service
  · exact .inl ⟨Gate.leaves_of_stored rfl hworking hstored.1 hstored.2, hstored⟩
  · have hleaves : Gate.Leaves _ _
        (Gate.conclude (inside principal service) _ (handled request principal service).2).2 :=
      Gate.leaves_of_dropped rfl hworking hstored
    exact .inr ⟨htables ▸ hleaves, hstored⟩

/-- The notices of the tables that a request leaves; a worker that goes on from there stores
none. -/
theorem notices_of_leaves {handled after : Service σ} {tables : Tables}
    (h : Gate.Leaves handled tables after) : after.database.tables.notices = tables.notices := by
  rw [h.after_eq]
  exact Service.notices_pause _

theorem Announces.exists_added {routine : Routine σ} {notice : Notice} {audience : Audience}
    {id : Int}
    (h : Announces (inside principal service) routine (opened service) notice audience id) :
    ∃ after, Tables.addNotice notice service.database.tables = .ok (id, after) := by
  have hinserted := h.inserted
  rw [fst_execute_opened] at hinserted
  cases hadded : Tables.addNotice notice service.database.tables with
  | error failure =>
    rw [hadded] at hinserted
    cases hinserted
  | ok outcome =>
    rw [hadded] at hinserted
    cases hinserted
    exact ⟨outcome.2, rfl⟩

/-- A request to another path than that of sessions ends in one of these ways. -/
theorem ending_settled (hpath : request.path ≠ Gate.socketPath)
    (h : service.database.hasTransactions = true) :
    Ending request principal service
      (settled request principal service).database.tables.notices := by
  cases hopen : service.database.isOpen with
  | false => exact .declined (handed_of_closed hopen) (by rw [settled_of_closed hpath h hopen])
  | true =>
    have hhanded : handed request principal service = _ := handed_of_open hopen
    have hleaves := @leaves_settled σ request principal service hpath h hopen
    rcases routine_cases (inside principal service) request (opened service) with
      hnone | ⟨notice, audience, id, hone⟩
    · have hunchanged : Gate.changed course request principal service = [] := hnone.changes
      rw [hunchanged] at hleaves
      refine .declined (hhanded.trans hnone.announced) ?_
      rcases hleaves with ⟨hkept, -⟩ | ⟨hkept, -⟩
      · exact notices_of_leaves hkept
      · exact notices_of_leaves hkept
    · obtain ⟨after, hadded⟩ := hone.exists_added
      have hchanged : Gate.changed course request principal service =
          [Tables.apply (Tables.addNotice notice)] := hone.changes
      have hsucceeds : (handled request principal service).1.Succeeds := by
        rw [handled_eq, hone.replied]
        exact show (200 : Nat) < 400 by decide
      rw [hchanged, Tables.replay, List.foldl_cons, List.foldl_nil,
        Tables.apply_of_eq hadded] at hleaves
      rcases hleaves with ⟨hstored, -, hcommitted⟩ | ⟨hkept, hfails⟩
      · exact .stored audience hadded (hhanded.trans hone.announced) hcommitted
          (notices_of_leaves hstored)
      · exact .lost audience hadded (hhanded.trans hone.announced)
          (fun hcommitted ↦ hfails ⟨hsucceeds, hcommitted⟩) (notices_of_leaves hkept)

/-- Where no worker runs, the deliveries that were taken wait behind the jobs from before. -/
theorem queue_settled (hpath : request.path ≠ Gate.socketPath)
    (h : service.database.hasTransactions = true) (hidle : service.working = false) :
    (settled request principal service).queue =
      service.queue.followedBy (JobQueue.taken (handed request principal service)) := by
  cases hopen : service.database.isOpen with
  | false =>
    rw [settled_of_closed hpath h hopen, handed_of_closed hopen]
    exact service.queue.followedBy_nil.symm
  | true =>
    have hworking : (handled request principal service).2.working = false := by
      rw [handled_eq, Routine.working_run]
      exact hidle
    have hqueue : (handled request principal service).2.queue =
        service.queue.followedBy (JobQueue.taken (handed request principal service)) := by
      rw [handled_eq, Routine.queue_run, handed_of_open hopen]
      rfl
    have hsame (tables : Tables) :
        (Gate.settled (handled request principal service).2 tables).pause =
          Gate.settled (handled request principal service).2 tables :=
      Service.pause_of_idle (.inl hworking)
    rcases @leaves_settled σ request principal service hpath h hopen with
      ⟨hleaves, -⟩ | ⟨hleaves, -⟩
    · rw [hleaves.after_eq, hsame]
      exact hqueue
    · rw [hleaves.after_eq, hsame]
      exact hqueue

/-! ### The request is answered -/

section Answered

variable [LivenessStore σ] {ready : Service σ}

theorem dispatch_eq_endpointNew (hmethod : request.method = "POST")
    (hpath : request.path = "/api/v1/notices") (context : Context) :
    Endpoint.dispatch (Endpoint.all (σ := σ)) context request = endpointNew context request := by
  funext service
  simp [Endpoint.dispatch, Endpoint.all, Endpoint.takes, hmethod, hpath, List.find?]

theorem inTransaction_dispatch (hmethod : request.method = "POST")
    (hpath : request.path = "/api/v1/notices") (principal : Option Principal)
    (service : Service σ) :
    Gate.inTransaction (Endpoint.dispatch Endpoint.all) request principal service =
      Gate.inTransaction endpointNew request principal service := by
  simp only [Gate.inTransaction, dispatch_eq_endpointNew hmethod hpath]

/-- Of the database and the queue, the layers keep what they surround left, but for the entry about
the request. -/
theorem layers_keep {inner : Request → Gate.Inner σ} {left : Service σ}
    (hready : HandsOn request service principal ready)
    (hleft : (inner request principal ready).2 = left) :
    (Gate.layered inner request service).2.database = left.database ∧
      ∃ entries, (∀ job ∈ entries, ∃ entry, job = .logAccess entry) ∧
        (Gate.layered inner request service).2.queue = left.queue.followedBy entries := by
  subst hleft
  rw [hready inner]
  cases principal with
  | none =>
    exact ⟨rfl, [], fun _ hmem ↦ absurd hmem List.not_mem_nil, (JobQueue.followedBy_nil _).symm⟩
  | some user =>
    let after := (inner request (some user) ready).2
    let entry := Gate.entry request user (inner request (some user) ready).1.status
      after.clock.millis
    refine ⟨rfl, _, ?_, after.queue_submit (.logAccess entry)⟩
    intro job hmem
    obtain ⟨submission, hsubmission, rfl⟩ := List.mem_map.mp hmem
    obtain rfl := List.mem_singleton.mp (List.mem_filter.mp hsubmission).1
    exact ⟨entry, rfl⟩

/-- A request that is handed on leaves what its handler did. -/
theorem answer_handedOn (hmethod : request.method = "POST")
    (hpath : request.path = "/api/v1/notices") (hready : HandsOn request service principal ready) :
    (Service.answer request service).2.database = (settled request principal ready).database ∧
      ∃ entries, (∀ job ∈ entries, ∃ entry, job = .logAccess entry) ∧
        (Service.answer request service).2.queue =
          (settled request principal ready).queue.followedBy entries := by
  have hanswer : (Service.answer request service).2 =
      (Gate.layered (Gate.inTransaction (Endpoint.dispatch Endpoint.all)) request service).2 := by
    simp only [Service.answer, hmethod, hpath]
    rfl
  rw [hanswer]
  exact layers_keep hready
    (congrArg Prod.snd (inTransaction_dispatch hmethod hpath principal ready))

end Answered

/-! ### What is delivered and what is stored -/

/-- Every one of these deliveries is of a stored notice. -/
def Backed (submissions : List (Job × Bool)) (tables : Tables) : Prop :=
  ∀ submission ∈ submissions, ∃ (id : Int) (notice : Notice) (audience : Audience),
    submission.1 = .deliverNotice (notice.message id) audience ∧ (id, notice) ∈ tables.published

/-- What a request for a new notice comes to, from when the layers hand it on until it is
answered. -/
structure Publication (request : Request) (principal : Option Principal)
    (before after : Service σ) : Prop where
  /-- At most one delivery is handed over, and only a queue that takes nothing refuses it. -/
  single : handed request principal before = [] ∨
    ∃ (id : Int) (notice : Notice) (audience : Audience), handed request principal before =
      [(.deliverNotice (notice.message id) audience, before.queue.accepts)]
  /-- Every delivery that is handed over is of a stored notice exactly if there is none or the
  transaction of the request could be committed. -/
  backed_iff : Backed (handed request principal before) after.database.tables ↔
    handed request principal before = [] ∨ Committed request principal before
  /-- Every notice that the request has stored is the one whose delivery was handed over. -/
  once : ∀ id notice, (id, notice) ∈ after.database.tables.published →
    (id, notice) ∉ before.database.tables.published →
    ∃ audience, handed request principal before =
      [(.deliverNotice (notice.message id) audience, before.queue.accepts)]
  kept : ∀ entry ∈ before.database.tables.published, entry ∈ after.database.tables.published
  /-- What was handed over and taken waits for the worker. -/
  queued : before.working = false →
    ∃ entries, (∀ job ∈ entries, ∃ entry, job = .logAccess entry) ∧
      after.queue =
        before.queue.followedBy (JobQueue.taken (handed request principal before) ++ entries)

/-- The delivery of a notice under an id that no stored notice has is not backed. -/
theorem not_backed_of_not_mem {notice : Notice} {audience : Audience} {id : Int} {taken : Bool}
    {tables : Tables} (h : ∀ other, (id, other) ∉ tables.published) :
    ¬Backed [(.deliverNotice (notice.message id) audience, taken)] tables := by
  intro hbacked
  obtain ⟨other, stored, whom, hjob, hmem⟩ := hbacked _ List.mem_cons_self
  have hid : id = other := congrArg NoticeMessage.id (Job.deliverNotice.inj hjob).1
  exact h stored (hid ▸ hmem)

/-- What is stored and handed over at each end of a request. -/
theorem publication_of_ending {after : Service σ}
    (h : Ending request principal service after.database.tables.notices)
    (hqueued : service.working = false →
      ∃ entries, (∀ job ∈ entries, ∃ entry, job = .logAccess entry) ∧
        after.queue = service.queue.followedBy
          (JobQueue.taken (handed request principal service) ++ entries)) :
    Publication request principal service after := by
  cases h with
  | declined hhanded hnotices =>
    have hsame := Tables.published_congr hnotices
    refine ⟨.inl hhanded, ?_, ?_, ?_, hqueued⟩
    · refine iff_of_true ?_ (.inl hhanded)
      rw [hhanded]
      exact fun submission hmem ↦ absurd hmem List.not_mem_nil
    · intro id notice hmem hnew
      exact absurd (hsame ▸ hmem) hnew
    · intro entry hmem
      exact hsame ▸ hmem
  | @stored notice audience id after' hadded hhanded hcommitted hnotices =>
    have hmem_iff (entry : Int × Notice) : entry ∈ after.database.tables.published ↔
        entry = (id, notice) ∨ entry ∈ service.database.tables.published := by
      rw [Tables.published_congr hnotices]
      exact Tables.mem_published_of_addNotice hadded entry
    refine ⟨.inr ⟨id, notice, audience, hhanded⟩, ?_, ?_, ?_, hqueued⟩
    · refine iff_of_true ?_ (.inr hcommitted)
      rw [hhanded]
      intro submission hmem
      obtain rfl := List.mem_singleton.mp hmem
      exact ⟨id, notice, audience, rfl, (hmem_iff _).mpr (.inl rfl)⟩
    · intro other stored hmem hnew
      rcases (hmem_iff _).mp hmem with hsame | hold
      · cases hsame
        exact ⟨audience, hhanded⟩
      · exact absurd hold hnew
    · exact fun entry hmem ↦ (hmem_iff entry).mpr (.inr hmem)
  | @lost notice audience id after' hadded hhanded hlost hnotices =>
    have hsame := Tables.published_congr hnotices
    refine ⟨.inr ⟨id, notice, audience, hhanded⟩, ?_, ?_, ?_, hqueued⟩
    · have hsome : handed request principal service ≠ [] := by
        rw [hhanded]
        exact List.cons_ne_nil _ _
      refine iff_of_false ?_ (not_or.mpr ⟨hsome, hlost⟩)
      rw [hhanded]
      refine not_backed_of_not_mem fun other ↦ ?_
      rw [hsame]
      exact Tables.not_mem_published_of_addNotice hadded other
    · intro other stored hmem hnew
      exact absurd (hsame ▸ hmem) hnew
    · intro entry hmem
      exact hsame ▸ hmem

/-- A request for a new notice that the layers hand on, whatever becomes of the insertion and of the
commit. -/
theorem publication_of_answer [LivenessStore σ] {ready : Service σ}
    (hmethod : request.method = "POST") (hpath : request.path = "/api/v1/notices")
    (hready : HandsOn request service principal ready)
    (htransactions : ready.database.hasTransactions = true) :
    Publication request principal ready (Service.answer request service).2 := by
  have hother : request.path ≠ Gate.socketPath := by
    rw [hpath]
    decide
  obtain ⟨hdatabase, entries, hentries, hqueue⟩ := answer_handedOn hmethod hpath hready
  refine publication_of_ending ?_ fun hidle ↦ ⟨entries, hentries, ?_⟩
  · rw [hdatabase]
    exact ending_settled hother htransactions
  · rw [hqueue, queue_settled hother htransactions hidle, JobQueue.followedBy_followedBy]

end Endings

/-! ### A notice of a user -/

/-- A notice for everybody, from alice. -/
def announcement : Request :=
  Desk.request "POST" "/api/v1/notices" "\x7b\"title\":\"t\",\"content\":\"c\",\"targetType\":1\x7d"

/-- The first notice, as it is delivered. -/
def firstMessage : NoticeMessage := ⟨1, "t", "c", "alice", 1700000000000⟩

theorem method_announcement : announcement.method = "POST" := rfl

theorem path_announcement : announcement.path = "/api/v1/notices" := rfl

theorem document_announcement : announcement.document shape =
    .ok (.object [("title", .string "t"), ("content", .string "c"), ("targetType", .ofInt 1)]) := by
  with_unfolding_all rfl

theorem routine_announcement {context : Context} (h : context.principal = some Desk.alice) :
    routine (σ := LivenessCache) context announcement =
      .act (fun service ↦ (service.clock.millis, service)) .refl fun now ↦
        publishing ⟨"t", "c", 1, none, "alice", now⟩ .all := by
  unfold routine Context.requirePrincipal
  rw [document_announcement, h]
  rfl

/-- Nothing was stored yet at the service with alice, and these are the transactions that its
storage refuses. -/
def desk (refusal? : TransactionId → Option String) : Service LivenessCache :=
  Desk.service (Tables.prepare {}) refusal?

section Announcement

variable {refusal? : TransactionId → Option String} {ready : Service LivenessCache}

theorem handed_announcement (h : Gate.Untouched (desk refusal?) ready) :
    handed announcement (some Desk.alice) ready = [(.deliverNotice firstMessage .all, true)] := by
  obtain ⟨limiter, cache, log, rfl⟩ : ∃ limiter cache log,
      ready = { desk refusal? with limiter, cache, log } := ⟨_, _, _, h.same⟩
  rw [handed_of_open rfl, routine_announcement rfl]
  rfl

theorem committed_announcement_iff (h : Gate.Untouched (desk refusal?) ready) :
    Committed announcement (some Desk.alice) ready ↔ refusal? ⟨1⟩ = none := by
  obtain ⟨limiter, cache, log, rfl⟩ : ∃ limiter cache log,
      ready = { desk refusal? with limiter, cache, log } := ⟨_, _, _, h.same⟩
  unfold Committed
  rw [handled_eq, routine_announcement rfl]
  exact Database.commit_eq_ok_iff rfl

theorem exists_handsOn_announcement (refusal? : TransactionId → Option String) :
    ∃ ready, HandsOn announcement (desk refusal?) (some Desk.alice) ready ∧
      Gate.Untouched (desk refusal?) ready ∧ ready.database = (desk refusal?).database := by
  have hneeds : Desk.settings.access.requiresToken "/api/v1/notices" = true := by decide
  obtain ⟨ready, hready, huntouched⟩ :=
    Desk.exists_handsOn_request (Tables.prepare {}) refusal? _ _ hneeds
  have hsame := congrArg Service.database huntouched.same
  exact ⟨ready, hready, huntouched, hsame⟩

end Announcement

/-- Where the transaction can be committed, alice's notice is stored, and its delivery waits. -/
theorem publication_of_answer_announcement :
    ∃ ready answered, answered = (Service.answer announcement (desk fun _ ↦ none)).2 ∧
      HandsOn announcement (desk fun _ ↦ none) (some Desk.alice) ready ∧
      Publication announcement (some Desk.alice) ready answered ∧
      handed announcement (some Desk.alice) ready = [(.deliverNotice firstMessage .all, true)] ∧
      ∃ notice, (1, notice) ∈ answered.database.tables.published := by
  obtain ⟨ready, hready, huntouched, hdatabase⟩ := exists_handsOn_announcement fun _ ↦ none
  have htransactions : ready.database.hasTransactions = true := by
    rw [hdatabase]
    rfl
  have hpublication :=
    publication_of_answer method_announcement path_announcement hready htransactions
  have hcommitted := (committed_announcement_iff huntouched).mpr rfl
  have hhanded := handed_announcement huntouched
  have hbacked := hpublication.backed_iff.mpr (.inr hcommitted)
  rw [hhanded] at hbacked
  obtain ⟨id, notice, audience, hjob, hmem⟩ := hbacked _ List.mem_cons_self
  have hid : 1 = id := congrArg NoticeMessage.id (Job.deliverNotice.inj hjob).1
  subst hid
  exact ⟨ready, _, rfl, hready, hpublication, hhanded, notice, hmem⟩

/-- What the storage says when it has no room left. -/
def full (_ : TransactionId) : Option String := some "database or disk is full"

/-- Where the storage refuses it, the delivery waits although no notice is stored. -/
theorem not_backed_announcement :
    ∃ ready answered, answered = (Service.answer announcement (desk full)).2 ∧
      HandsOn announcement (desk full) (some Desk.alice) ready ∧
      handed announcement (some Desk.alice) ready = [(.deliverNotice firstMessage .all, true)] ∧
      answered.database.tables.published = [] ∧
      ¬Backed (handed announcement (some Desk.alice) ready) answered.database.tables := by
  obtain ⟨ready, hready, huntouched, hdatabase⟩ := exists_handsOn_announcement full
  have hhanded := handed_announcement huntouched
  have htransactions : ready.database.hasTransactions = true := by
    rw [hdatabase]
    rfl
  have hending : Ending announcement (some Desk.alice) ready _ :=
    ending_settled (by decide) htransactions
  obtain ⟨hsettled, -⟩ := answer_handedOn method_announcement path_announcement hready
  have hpublished :
      (settled announcement (some Desk.alice) ready).database.tables.published = [] := by
    cases hending with
    | declined hnone =>
      rw [hhanded] at hnone
      cases hnone
    | stored _ _ _ hcommitted => cases (committed_announcement_iff huntouched).mp hcommitted
    | lost _ _ _ _ hnotices =>
      rw [Tables.published_congr hnotices, hdatabase]
      rfl
  rw [← hsettled] at hpublished
  refine ⟨ready, _, rfl, hready, hhanded, hpublished, ?_⟩
  have habsent (other : Notice) :
      (1, other) ∉ (Service.answer announcement (desk full)).2.database.tables.published := by
    rw [hpublished]
    exact List.not_mem_nil
  let notice : Notice := ⟨"t", "c", 1, none, "alice", 1700000000000⟩
  have hmessage : firstMessage = notice.message 1 := rfl
  rw [hhanded, hmessage]
  exact not_backed_of_not_mem habsent

end Notice

end StompBroker
