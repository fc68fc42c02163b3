import Mathlib.Logic.Function.Basic
import StompBroker.Proofs.Service.Visit

/-!
# Requests and the worker side by side

Requests are answered at the same time, while the worker processes jobs and until it is told to
stop. In a `Traffic` every request has a visit, and the worker is idle, busy or stopped. Whoever is
to go on next is left open, and so is how a job ends. The queue of jobs changes by submissions, when
the worker takes a job, and when it stops, after which the jobs that wait are lost.

The steps of one request are steps of the traffic in which the others stand still (`exists_turns`).
So a request without others in between is answered as the service answers it
(`exists_plan_answer`), and the worker processes a job as the service does (`labor_workOnce`).
-/

set_option autoImplicit false

namespace StompBroker

variable {ι σ : Type}

/-! ### All requests and the worker -/

/-- What the task that processes jobs does. -/
inductive Worker where
  | idle
  | busy (job : Job)
  | stopped

/-- Something that happened to a request, to a job or to the worker. -/
inductive Incident (ι : Type) where
  | request (name : ι) (deed : Deed)
  | took (job : Job)
  | finished (job : Job) (outcome : Except Failure Unit)
  /-- The worker is told to stop. -/
  | shutdown
  | stopped

/-- The service, and where all requests and the worker stand. -/
structure Traffic (ι σ : Type) : Type 1 where
  service : Service σ
  visits : ι → Visit σ := fun _ ↦ .arriving
  worker : Worker := .idle
  /-- What happened so far. -/
  history : List (Incident ι) := []

namespace JobQueue

/-- Nobody will take the jobs that wait, nor any other. -/
def abandoned (queue : JobQueue) : JobQueue := { queue with waiting := [], stopped := true }

end JobQueue

namespace Traffic

/-- A request goes on. -/
def move [DecidableEq ι] (traffic : Traffic ι σ) (name : ι) (visit : Visit σ) (service : Service σ)
    (deed : Option Deed) : Traffic ι σ :=
  { traffic with
    service
    visits := Function.update traffic.visits name visit
    history := traffic.history ++ (deed.map (Incident.request name)).toList }

@[simp]
theorem visits_move_self [DecidableEq ι] (traffic : Traffic ι σ) (name : ι) (visit : Visit σ)
    (service : Service σ) (deed : Option Deed) :
    (traffic.move name visit service deed).visits name = visit := by
  simp only [move, Function.update_self]

theorem visits_move_of_ne [DecidableEq ι] (traffic : Traffic ι σ) {name other : ι}
    (h : other ≠ name) (visit : Visit σ) (service : Service σ) (deed : Option Deed) :
    (traffic.move name visit service deed).visits other = traffic.visits other := by
  simp only [move, ne_eq, h, not_false_eq_true, Function.update_of_ne]

/-- A step of the worker: it takes the first of the jobs that wait, or is done with one, which may
have failed. -/
inductive Labor (traffic : Traffic ι σ) : Traffic ι σ → Prop
  | took {job : Job} {rest : List Job} : traffic.worker = .idle →
      traffic.service.queue.waiting = job :: rest →
        Labor traffic
          { traffic with
            service :=
              { traffic.service with queue := { traffic.service.queue with waiting := rest } }
            worker := .busy job
            history := traffic.history ++ [.took job] }
  | finished {job : Job} (outcome : Except Failure Unit) (after : Service σ) :
      traffic.worker = .busy job → after.queue = traffic.service.queue →
        Labor traffic
          { traffic with
            service := after
            worker := .idle
            history := traffic.history ++ [.finished job outcome] }

section Steps

variable [DecidableEq ι] [LivenessStore σ]

/-- A step of one request. -/
def Turn (plan : Context → Request → Routine σ) (request : ι → Request) (name : ι)
    (traffic after : Traffic ι σ) : Prop :=
  ∃ visit service deed,
    Visit.Step plan (request name) traffic.service (traffic.visits name) visit service deed ∧
      after = traffic.move name visit service deed

/-- A step of anybody. -/
inductive Step (plan : Context → Request → Routine σ) (request : ι → Request)
    (traffic : Traffic ι σ) : Traffic ι σ → Prop
  | turn {after : Traffic ι σ} (name : ι) : Turn plan request name traffic after →
      Step plan request traffic after
  | labor {after : Traffic ι σ} : Labor traffic after → Step plan request traffic after
  | shutdown : Step plan request traffic { traffic with history := traffic.history ++ [.shutdown] }
  /-- A worker that was told to stop takes no more jobs once it is idle. -/
  | stopped : traffic.worker = .idle → .shutdown ∈ traffic.history →
      Step plan request traffic
        { traffic with
          service := { traffic.service with queue := traffic.service.queue.abandoned }
          worker := .stopped
          history := traffic.history ++ [.stopped] }
  /-- Sessions, the clock and whoever else there is do something. -/
  | elsewhere (after : Service σ) : after.queue = traffic.service.queue →
      Step plan request traffic { traffic with service := after }

/-- What requests and the worker may come to, from a queue for so many jobs on. -/
inductive Reachable (plan : Context → Request → Routine σ) (request : ι → Request)
    (capacity : Nat) : Traffic ι σ → Prop
  | start (service : Service σ) : service.queue = .ofCapacity capacity →
      Reachable plan request capacity { service }
  | step {traffic after : Traffic ι σ} : Reachable plan request capacity traffic →
      Step plan request traffic after → Reachable plan request capacity after

end Steps

/-! ### Steps of one request among all -/

section Turns

variable [DecidableEq ι] [LivenessStore σ] {plan : Context → Request → Routine σ}
  {request : ι → Request} {name : ι}

/-- Steps of one request are steps of the traffic in which the others stand still. -/
theorem exists_turns {traffic : Traffic ι σ} {service : Service σ} {visit : Visit σ}
    (h : Visit.Alone plan (request name) (traffic.service, traffic.visits name) (service, visit)) :
    ∃ after, Relation.ReflTransGen (Turn plan request name) traffic after ∧
      after.service = service ∧ after.visits = Function.update traffic.visits name visit ∧
        after.worker = traffic.worker := by
  generalize hlast : (service, visit) = last at h
  induction h generalizing service visit with
  | refl =>
    cases hlast
    exact ⟨traffic, .refl, rfl, (Function.update_eq_self name traffic.visits).symm, rfl⟩
  | @tail middle last _ hstep ih =>
    subst hlast
    obtain ⟨before, hturns, hservice, hvisits, hworker⟩ := ih rfl
    obtain ⟨deed, hstep⟩ := hstep
    have hvisit : before.visits name = middle.2 := by rw [hvisits, Function.update_self]
    refine ⟨before.move name visit service deed, hturns.tail ⟨visit, service, deed, ?_, rfl⟩, rfl,
      ?_, hworker⟩
    · rw [hservice, hvisit]
      exact hstep
    · rw [move, hvisits, Function.update_idem]

/-- Without a step of others in between, a request is answered as the service answers it, or breaks
off as there. -/
theorem exists_turns_answer (hplan : Endpoint.dispatch Endpoint.all = Routine.handler plan)
    {traffic : Traffic ι σ} (harriving : traffic.visits name = .arriving)
    (hidle : traffic.service.working = false) :
    ∃ after principal, Relation.ReflTransGen (Turn plan request name) traffic after ∧
      after.service = (Service.answer (request name) traffic.service).2 ∧
      after.visits name = .ended principal (Service.answer (request name) traffic.service).1 ∧
      after.worker = traffic.worker := by
  obtain ⟨principal, halone⟩ : ∃ principal, Visit.Alone plan (request name)
      (traffic.service, .arriving) (_, .ended principal _) :=
    Visit.exists_alone_answer hplan hidle
  rw [← harriving] at halone
  obtain ⟨after, hturns, hservice, hvisits, hworker⟩ := exists_turns halone
  refine ⟨after, principal, hturns, hservice, ?_, hworker⟩
  rw [hvisits, Function.update_self]

/-- The endpoints of the service take routines with which every request is answered so. -/
theorem exists_plan_answer : ∃ plan : Context → Request → Routine σ,
    ∀ (request : ι → Request) (name : ι) (traffic : Traffic ι σ),
      traffic.visits name = .arriving → traffic.service.working = false →
        ∃ after principal, Relation.ReflTransGen (Turn plan request name) traffic after ∧
          after.service = (Service.answer (request name) traffic.service).2 ∧
          after.visits name =
            .ended principal (Service.answer (request name) traffic.service).1 ∧
          after.worker = traffic.worker := by
  obtain ⟨plan, hplan⟩ := (Endpoint.planned_dispatch (σ := σ)).exists_plan
  exact ⟨plan, fun _ _ _ harriving hidle ↦ exists_turns_answer hplan harriving hidle⟩

/-- A request that the limiter does not break off waits for nobody: it can go on by its own steps
until it is answered. -/
theorem exists_turns_answered (name : ι) (traffic : Traffic ι σ)
    (hgoing : traffic.visits name ≠ .broken)
    (hbreaks : traffic.visits name = .arriving → ¬Gate.Breaks (request name) traffic.service) :
    ∃ after principal response, Relation.ReflTransGen (Turn plan request name) traffic after ∧
      after.visits name = .answered principal response := by
  generalize hvisit : traffic.visits name = visit at hgoing hbreaks
  have hwellFounded : WellFounded (Visit.Next plan (request name)) := Visit.wellFounded_next
  induction visit using hwellFounded.induction generalizing traffic with
  | _ visit ih =>
    by_cases hanswered : ∃ principal response, visit = .answered principal response
    · obtain ⟨principal, response, rfl⟩ := hanswered
      exact ⟨traffic, principal, response, .refl, hvisit⟩
    have hopen (principal : Option Principal) (response : Option Response) :
        visit ≠ .ended principal response := by
      cases response with
      | none => exact hgoing
      | some response => exact fun hsame ↦ hanswered ⟨principal, response, hsame⟩
    obtain ⟨later, service, deed, hstep⟩ : ∃ later service deed,
        Visit.Step plan (request name) traffic.service visit later service deed :=
      Visit.exists_step hopen traffic.service
    obtain ⟨harrived, hlater⟩ := hstep.goes_on hbreaks
    have hturn : Turn plan request name traffic (traffic.move name later service deed) :=
      ⟨later, service, deed, hvisit ▸ hstep, rfl⟩
    obtain ⟨after, principal, response, hturns, hlast⟩ :=
      ih later ⟨_, _, _, hstep⟩ (traffic.move name later service deed)
        (traffic.visits_move_self name later service deed) hlater
        (fun harriving ↦ absurd harriving harrived)
    exact ⟨after, principal, response, hturns.head hturn, hlast⟩

end Turns

end Traffic

/-! ### The worker without others in between -/

namespace Service

theorem queue_process (service : Service σ) (job : Job) :
    (service.process job).queue = service.queue := by
  cases job with
  | logAccess entry => rfl
  | deliverNotice notice audience => rfl

theorem queue_workOnce {service : Service σ} {job : Job} {rest : List Job}
    (h : service.queue.waiting = job :: rest) :
    service.workOnce.queue = { service.queue with waiting := rest } := by
  simp only [workOnce, h, queue_process]

end Service

namespace Traffic

/-- Without a step of others in between, the worker processes a job as the service does. -/
theorem labor_workOnce {traffic : Traffic ι σ} {job : Job} {rest : List Job}
    (hidle : traffic.worker = .idle) (h : traffic.service.queue.waiting = job :: rest)
    (outcome : Except Failure Unit) :
    Relation.ReflTransGen Labor traffic
      { traffic with
        service := traffic.service.workOnce
        history := traffic.history ++ [.took job, .finished job outcome] } := by
  have hboth := (Relation.ReflTransGen.single (Labor.took hidle h)).tail
    (Labor.finished outcome traffic.service.workOnce rfl (Service.queue_workOnce h))
  rw [List.append_assoc, ← hidle] at hboth
  exact hboth

end Traffic

end StompBroker
