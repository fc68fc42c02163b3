import Mathlib.Logic.Relation
import StompBroker.Proofs.Service.Admission
import StompBroker.Proofs.Service.Routine

/-!
# One request among others

A `Visit` is a request between two points at which others may go on, and a `Visit.Step` leads from
one to the next. The handler takes the routine of some plan; there is one for the endpoints of the
service (`Endpoint.planned_dispatch`). What requests do to the database is left open, and so is what
the statements in it come to. What is not left open is the queue of jobs: all that a request does to
it is to submit a job (`Visit.Step.queue`).

Without a step of others in between, the steps of a request make up what the service does as one
operation (`exists_alone_answer`). With them, a request still comes to an end, which is a response
unless the limiter broke off: it takes finitely many steps (`wellFounded_next`), and can always go
on (`exists_step`).

Its `Deed`s agree with where it stands (`Past.accords`). The entry about it is submitted with the
status that it is answered with, once if it was let through for a user, and not at all otherwise.
-/

set_option autoImplicit false

namespace StompBroker

variable {σ : Type}

/-! ### One request -/

/-- Where a request stands, and for whom. -/
inductive Visit (σ : Type) : Type 1 where
  | arriving
  /-- The limiter let it through. -/
  | counted
  /-- It was handed on. -/
  | known (principal : Option Principal)
  /-- Its handler has this left to do. -/
  | handling (context : Context) (routine : Routine σ)
  /-- Its handler is done, and its transaction is to end. -/
  | replied (context : Context) (reply : Reply)
  /-- It is over but for the entry about it. -/
  | concluded (principal : Option Principal) (response : Response)
  | returning (principal : Option Principal) (response : Response)
  | answered (principal : Option Principal) (response : Response)
  /-- It was not answered, because the limiter broke off. -/
  | broken

/-- Where a request stands in the end. -/
def Visit.ended (principal : Option Principal) : Option Response → Visit σ
  | some response => .answered principal response
  | none => .broken

/-- Something that a request did which others can see. -/
inductive Deed where
  /-- It was let through for a user. -/
  | identified (user : Principal)
  | replied (reply : Reply)
  /-- It submitted a job, which was taken or refused. -/
  | submitted (job : Job) (taken : Bool)
  | answered (response : Response)

namespace Request

/-- Preflight requests and those for sessions are answered in front of the layers. -/
def InFront (request : Request) : Prop :=
  request.method = "OPTIONS" ∨ request.path = Gate.socketPath

end Request

namespace Gate

/-- To find out who asks leaves the database, the queue and the worker alone. -/
theorem spares_identify [LivenessStore σ] {request : Request} {service after : Service σ}
    {outcome : Except Failure (Option Principal)}
    (h : identify request service = (outcome, after)) : service.Spares after := by
  have hafter : (identify request service).2 = after := congrArg Prod.snd h
  rw [← hafter]
  unfold identify
  split
  · exact .refl service
  · split
    · exact .refl service
    · rw [snd_judge]
      exact ⟨rfl, rfl, rfl⟩

end Gate

namespace Visit

section Steps

variable [LivenessStore σ]

/-- One step of a request, with the service after it and what it did. -/
inductive Step (plan : Context → Request → Routine σ) (request : Request) (service : Service σ) :
    Visit σ → Visit σ → Service σ → Option Deed → Prop
  | answeredInFront (response : Response) : request.InFront →
      Step plan request service .arriving (.answered none response) service
        (some (.answered response))
  | turnedAway : ¬request.InFront → Gate.Exceeds request service →
      Step plan request service .arriving (.returning none (.fail .tooManyRequests))
        (Gate.metered request service) none
  | broken : ¬request.InFront → Gate.Breaks request service →
      Step plan request service .arriving .broken (Gate.metered request service) none
  | counted : ¬request.InFront → Gate.Lets request service →
      Step plan request service .arriving .counted (Gate.metered request service) none
  | denied {failure : Failure} {after : Service σ} :
      Gate.identify request service = (.error failure, after) →
        Step plan request service .counted (.returning none (.fail failure)) after none
  | identified {principal : Option Principal} {after : Service σ} :
      Gate.identify request service = (.ok principal, after) →
        Step plan request service .counted (.known principal) after
          (principal.map Deed.identified)
  /-- No transaction could be opened. -/
  | unopened {principal : Option Principal} (failure : Failure) :
      Step plan request service (.known principal) (.concluded principal (.fail failure)) service
        none
  /-- The handler begins, in a transaction or in none. -/
  | opened {principal : Option Principal} (context : Context) (database : Database) :
      context.principal = principal →
        Step plan request service (.known principal) (.handling context (plan context request))
          { service with database } none
  | executed {context : Context} {α : Type} {statement : Statement α}
    {next : Except Failure α → Routine σ} (result : Except Failure α) (database : Database) :
      Step plan request service (.handling context (.execute statement next))
        (.handling context (next result)) { service with database } none
  | announced {context : Context} {notice : NoticeMessage} {audience : Audience}
    {next : Bool → Routine σ} :
      Step plan request service (.handling context (.announce notice audience next))
        (.handling context (next (service.submit (.deliverNotice notice audience)).1))
        (service.submit (.deliverNotice notice audience)).2
        (some (.submitted (.deliverNotice notice audience)
          (service.submit (.deliverNotice notice audience)).1))
  | acted {context : Context} {α : Type} {effect : Service σ → α × Service σ}
    {spares : ∀ service, Service.Spares service (effect service).2} {next : α → Routine σ} :
      Step plan request service (.handling context (.act effect spares next))
        (.handling context (next (effect service).1)) (effect service).2 none
  | replied {context : Context} {reply : Reply} :
      Step plan request service (.handling context (.conclude reply)) (.replied context reply)
        service (some (.replied reply))
  /-- The transaction ends, and a handler that broke off is answered for. -/
  | concluded {context : Context} {reply : Reply} (database : Database) :
      Step plan request service (.replied context reply)
        (.concluded context.principal (Gate.conclude context reply service).1)
        { service with database } none
  | passed {response : Response} :
      Step plan request service (.concluded none response) (.returning none response) service none
  | recorded {user : Principal} {response : Response} {job : Job} :
      job = .logAccess (Gate.entry request user response.status service.clock.millis) →
        Step plan request service (.concluded (some user) response)
          (.returning (some user) response) (service.submit job).2
          (some (.submitted job (service.submit job).1))
  | answered {principal : Option Principal} {response : Response} :
      Step plan request service (.returning principal response)
        (.answered principal (Service.trimmed request response))
        (Gate.noted request response service)
        (some (.answered (Service.trimmed request response)))

variable {plan : Context → Request → Routine σ} {request : Request} {service after : Service σ}
  {visit later : Visit σ} {deed : Option Deed}

/-- A request does nothing to the queue but to submit a job. -/
theorem Step.queue (h : Step plan request service visit later after deed) :
    (after.queue = service.queue ∧ ∀ job taken, deed ≠ some (.submitted job taken)) ∨
      ∃ job, after.queue = (service.queue.submit job).2 ∧
        deed = some (.submitted job service.queue.accepts) := by
  cases h with
  | announced =>
    refine .inr ⟨_, rfl, ?_⟩
    rw [Service.fst_submit]
  | recorded =>
    refine .inr ⟨_, rfl, ?_⟩
    rw [Service.fst_submit]
  | @acted _ _ _ spares _ => exact .inl ⟨(spares service).queue, fun _ _ ↦ nofun⟩
  | denied hdenied => exact .inl ⟨(Gate.spares_identify hdenied).queue, fun _ _ ↦ nofun⟩
  | @identified principal _ hidentified =>
    refine .inl ⟨(Gate.spares_identify hidentified).queue, fun job taken ↦ ?_⟩
    cases principal with
    | none => exact nofun
    | some user => exact nofun
  | _ => exact .inl ⟨rfl, fun _ _ ↦ nofun⟩

end Steps

end Visit

/-! ### Requests without others in between -/

namespace Gate

/-- Where the worker does not run, the end of a transaction is all that happens at the end of a
request. -/
theorem snd_conclude_of_idle {service : Service σ} (h : service.working = false)
    (context : Context) (reply : Reply) :
    ∃ database, (conclude context reply service).2 = { service with database } := by
  have hpaused (database : Database) :
      ({ service with database } : Service σ).pause = { service with database } :=
    Service.pause_of_idle (.inl h)
  cases htransaction : context.transaction with
  | none => exact ⟨service.database, conclude_alone htransaction reply service⟩
  | some id =>
    by_cases hsucceeds : reply.Succeeds
    · rw [conclude_of_succeeds htransaction hsucceeds, hpaused]
      exact ⟨_, rfl⟩
    · rw [conclude_of_not_succeeds htransaction hsucceeds, hpaused]
      exact ⟨_, rfl⟩

end Gate

namespace Visit

variable [LivenessStore σ] {plan : Context → Request → Routine σ} {request : Request}

/-- Steps of one request without others in between. -/
abbrev Alone (plan : Context → Request → Routine σ) (request : Request) :
    Service σ × Visit σ → Service σ × Visit σ → Prop :=
  Relation.ReflTransGen fun now later ↦ ∃ deed, Step plan request now.1 now.2 later.2 later.1 deed

/-- A handler takes its routine. -/
theorem alone_handling (context : Context) (routine : Routine σ) (service : Service σ) :
    Alone plan request (service, .handling context routine)
      ((routine.run context service).2, .replied context (routine.run context service).1) := by
  induction routine generalizing service with
  | conclude reply => exact .single ⟨_, .replied⟩
  | execute statement next ih =>
    exact .head ⟨_, .executed (context.execute statement service).1
      (context.execute statement service).2.database⟩ (ih _ _)
  | announce notice audience next ih => exact .head ⟨_, .announced⟩ (ih _ _)
  | act effect spares next ih => exact .head ⟨_, .acted⟩ (ih _ _)

/-- A request that was handed on takes the handler's routine in its transaction. -/
theorem alone_known (principal : Option Principal) {service : Service σ}
    (hidle : service.working = false) :
    Alone plan request (service, .known principal)
      ((Gate.inTransaction (Routine.handler plan) request principal service).2,
        .concluded principal
          (Gate.inTransaction (Routine.handler plan) request principal service).1) := by
  -- Whatever the transaction is, the handler takes its routine in it, and it ends.
  have hserved (context : Context) (hcontext : context.principal = principal)
      (database : Database) :
      let served := (plan context request).run context { service with database }
      Alone plan request (service, .known principal)
        ((Gate.conclude context served.1 served.2).2,
          .concluded principal (Gate.conclude context served.1 served.2).1) := by
    intro served
    have hworking : served.2.working = false :=
      (Routine.working_run context (plan context request) { service with database }).trans hidle
    obtain ⟨ended, hended⟩ := Gate.snd_conclude_of_idle hworking context served.1
    rw [hended]
    have hopened : Step plan request service (.known principal)
        (.handling context (plan context request)) { service with database } none :=
      .opened context database hcontext
    have hconcluded : Step plan request served.2 (.replied context served.1)
        (.concluded principal (Gate.conclude context served.1 served.2).1)
        { served.2 with database := ended } none := hcontext ▸ .concluded ended
    exact .head ⟨_, hopened⟩ ((alone_handling context _ _).tail ⟨_, hconcluded⟩)
  unfold Gate.inTransaction
  split
  · exact hserved { principal } rfl service.database
  · cases service.database.begin with
    | error failure => exact .single ⟨_, .unopened failure⟩
    | ok opened => exact hserved { principal, transaction := some opened.1 } rfl opened.2

/-- The entry about a request follows if it is known who asked. -/
theorem alone_concluded (inner : Gate.Inner σ) (principal : Option Principal)
    (service : Service σ) :
    Alone plan request
      ((inner principal service).2, .concluded principal (inner principal service).1)
      ((Gate.recorded inner request principal service).2,
        .returning principal (Gate.recorded inner request principal service).1) := by
  cases principal with
  | none => exact .single ⟨_, .passed⟩
  | some user => exact .single ⟨_, .recorded rfl⟩

/-- Whatever the inner layers come to is logged and answered. -/
theorem alone_returning {service after : Service σ} {principal : Option Principal}
    {response : Response}
    (h : Alone plan request (service, .arriving) (after, .returning principal response)) :
    Alone plan request (service, .arriving)
      (Gate.noted request response after,
        .answered principal (Service.trimmed request response)) :=
  h.tail ⟨_, .answered⟩

variable {service after : Service σ} {principal : Option Principal}

theorem alone_counted (hbehind : ¬request.InFront) (hlets : Gate.Lets request service) :
    Alone plan request (service, .arriving) (Gate.metered request service, .counted) :=
  .single ⟨_, .counted hbehind hlets⟩

/-- A request that is let through is answered for the user it is from. -/
theorem alone_guarded_of_ok (hbehind : ¬request.InFront) (hidle : service.working = false)
    (h : Gate.verdict request service = (some (.ok principal), after)) :
    Alone plan request (service, .arriving)
      ((Gate.guarded (Routine.handler plan) request service).2,
        ended principal
          ((Gate.guarded (Routine.handler plan) request service).1.map
            (Service.trimmed request))) := by
  have hguarded := Gate.handsOn_of_verdict h (Gate.inTransaction (Routine.handler plan))
  obtain ⟨hlets, hidentify⟩ : Gate.Lets request service ∧
      Gate.identify request (Gate.metered request service) = (.ok principal, after) := by
    rcases Gate.verdict_eq_some h with hidentified | ⟨-, hrefused, -⟩
    · exact hidentified
    · cases hrefused
  have hready : after.working = false := (Gate.spares_identify hidentify).working.trans hidle
  have hknown : Alone plan request (service, .arriving) (after, .known principal) :=
    (alone_counted hbehind hlets).tail ⟨_, .identified hidentify⟩
  have hreturning := hknown.trans ((alone_known principal hready).trans
    (alone_concluded (Gate.inTransaction (Routine.handler plan) request) principal after))
  rw [Gate.layered] at hguarded
  rw [Gate.guarded, hguarded]
  exact alone_returning hreturning

/-- A request that is refused is answered for nobody. -/
theorem alone_guarded_of_error (hbehind : ¬request.InFront) {failure : Failure}
    (h : Gate.verdict request service = (some (.error failure), after)) :
    Alone plan request (service, .arriving)
      ((Gate.guarded (Routine.handler plan) request service).2,
        ended none
          ((Gate.guarded (Routine.handler plan) request service).1.map
            (Service.trimmed request))) := by
  have hguarded := Gate.layered_of_verdict h (Gate.inTransaction (Routine.handler plan))
  rw [Gate.layered] at hguarded
  rw [Gate.guarded, hguarded]
  refine alone_returning ?_
  rcases Gate.verdict_eq_some h with ⟨hlets, hidentify⟩ | ⟨hexceeds, hrefused, rfl⟩
  · exact (alone_counted hbehind hlets).tail ⟨_, .denied hidentify⟩
  · cases hrefused
    exact .single ⟨_, .turnedAway hbehind hexceeds⟩

/-- A request that breaks off is not answered. -/
theorem alone_guarded_of_none (hbehind : ¬request.InFront)
    (h : Gate.verdict request service = (none, after)) :
    Alone plan request (service, .arriving)
      ((Gate.guarded (Routine.handler plan) request service).2,
        ended none
          ((Gate.guarded (Routine.handler plan) request service).1.map
            (Service.trimmed request))) := by
  have hguarded := Gate.layered_of_none h (Gate.inTransaction (Routine.handler plan))
  rw [Gate.layered] at hguarded
  rw [Gate.guarded, hguarded]
  obtain ⟨hbreaks, rfl⟩ := Gate.verdict_eq_none h
  exact .single ⟨_, .broken hbehind hbreaks⟩

/-- A request is answered as the service answers it. -/
theorem exists_alone_answer (hplan : Endpoint.dispatch Endpoint.all = Routine.handler plan)
    (hidle : service.working = false) :
    ∃ principal, Alone plan request (service, .arriving)
      ((Service.answer request service).2,
        ended principal (Service.answer request service).1) := by
  unfold Service.answer
  split
  · rename_i hmethod
    exact ⟨none, .single ⟨_, .answeredInFront _ (.inl (eq_of_beq hmethod))⟩⟩
  split
  · rename_i hpath
    exact ⟨none, .single ⟨_, .answeredInFront _ (.inr (eq_of_beq hpath))⟩⟩
  · rename_i hmethod hpath
    have hbehind : ¬request.InFront := by
      rintro (hfront | hfront)
      · exact hmethod (beq_iff_eq.mpr hfront)
      · exact hpath (beq_iff_eq.mpr hfront)
    rw [Service.answerGuarded, hplan]
    rcases hverdict : Gate.verdict request service with ⟨_ | failure | principal, after⟩
    · exact ⟨none, alone_guarded_of_none hbehind hverdict⟩
    · exact ⟨none, alone_guarded_of_error hbehind hverdict⟩
    · exact ⟨principal, alone_guarded_of_ok hbehind hidle hverdict⟩

/-! ### Every request comes to an end -/

/-- A request goes on from one point to another, in some state of the service. -/
def Next (plan : Context → Request → Routine σ) (request : Request) (later visit : Visit σ) :
    Prop :=
  ∃ service after deed, Step plan request service visit later after deed

theorem acc_of_steps {visit : Visit σ}
    (h : ∀ service later after deed, Step plan request service visit later after deed →
      Acc (Next plan request) later) : Acc (Next plan request) visit := by
  refine ⟨_, fun later hnext ↦ ?_⟩
  obtain ⟨service, after, deed, hstep⟩ := hnext
  exact h service later after deed hstep

theorem acc_answered (principal : Option Principal) (response : Response) :
    Acc (Next plan request) (.answered principal response) :=
  acc_of_steps fun _ _ _ _ hstep ↦ nomatch hstep

theorem acc_broken : Acc (Next plan request) .broken :=
  acc_of_steps fun _ _ _ _ hstep ↦ nomatch hstep

theorem acc_returning (principal : Option Principal) (response : Response) :
    Acc (Next plan request) (.returning principal response) := by
  refine acc_of_steps fun _ _ _ _ hstep ↦ ?_
  cases hstep with
  | answered => exact acc_answered _ _

theorem acc_concluded (principal : Option Principal) (response : Response) :
    Acc (Next plan request) (.concluded principal response) := by
  refine acc_of_steps fun _ _ _ _ hstep ↦ ?_
  cases hstep with
  | passed => exact acc_returning _ _
  | recorded _ => exact acc_returning _ _

theorem acc_replied (context : Context) (reply : Reply) :
    Acc (Next plan request) (.replied context reply) := by
  refine acc_of_steps fun _ _ _ _ hstep ↦ ?_
  cases hstep with
  | concluded _ => exact acc_concluded _ _

/-- A routine comes to an end, whatever its statements come to. -/
theorem acc_handling (context : Context) (routine : Routine σ) :
    Acc (Next plan request) (.handling context routine) := by
  induction routine with
  | conclude reply =>
    refine acc_of_steps fun _ _ _ _ hstep ↦ ?_
    cases hstep with
    | replied => exact acc_replied context reply
  | execute statement next ih =>
    refine acc_of_steps fun _ _ _ _ hstep ↦ ?_
    cases hstep with
    | executed result _ => exact ih result
  | announce notice audience next ih =>
    refine acc_of_steps fun _ _ _ _ hstep ↦ ?_
    cases hstep with
    | announced => exact ih _
  | act effect spares next ih =>
    refine acc_of_steps fun _ _ _ _ hstep ↦ ?_
    cases hstep with
    | acted => exact ih _

theorem acc_known (principal : Option Principal) :
    Acc (Next plan request) (.known principal) := by
  refine acc_of_steps fun _ _ _ _ hstep ↦ ?_
  cases hstep with
  | unopened _ => exact acc_concluded _ _
  | opened context _ _ => exact acc_handling context _

theorem acc_counted : Acc (Next plan request) .counted := by
  refine acc_of_steps fun _ _ _ _ hstep ↦ ?_
  cases hstep with
  | denied _ => exact acc_returning _ _
  | identified _ => exact acc_known _

theorem acc_arriving : Acc (Next plan request) .arriving := by
  refine acc_of_steps fun _ _ _ _ hstep ↦ ?_
  cases hstep with
  | answeredInFront _ _ => exact acc_answered _ _
  | turnedAway _ _ => exact acc_returning _ _
  | broken _ _ => exact acc_broken
  | counted _ _ => exact acc_counted

/-- A request takes finitely many steps, however it goes on. -/
theorem wellFounded_next : WellFounded (Next plan request) := by
  refine ⟨fun visit ↦ ?_⟩
  cases visit with
  | arriving => exact acc_arriving
  | counted => exact acc_counted
  | known principal => exact acc_known principal
  | handling context routine => exact acc_handling context routine
  | replied context reply => exact acc_replied context reply
  | concluded principal response => exact acc_concluded principal response
  | returning principal response => exact acc_returning principal response
  | answered principal response => exact acc_answered principal response
  | broken => exact acc_broken

/-- A request that has not come to an end can go on, and waits for nobody. -/
theorem exists_step {visit : Visit σ}
    (h : ∀ principal response, visit ≠ ended principal response) (service : Service σ) :
    ∃ later after deed, Step plan request service visit later after deed := by
  cases visit with
  | arriving =>
    by_cases hfront : request.InFront
    · exact ⟨_, _, _, .answeredInFront ⟨200, .empty⟩ hfront⟩
    rcases Gate.counted_cases request service with hlets | hexceeds | hbreaks
    · exact ⟨_, _, _, .counted hfront hlets⟩
    · exact ⟨_, _, _, .turnedAway hfront hexceeds⟩
    · exact ⟨_, _, _, .broken hfront hbreaks⟩
  | counted =>
    rcases hidentify : Gate.identify request service with ⟨failure | principal, ready⟩
    · exact ⟨_, _, _, .denied hidentify⟩
    · exact ⟨_, _, _, .identified hidentify⟩
  | known principal => exact ⟨_, _, _, .opened { principal } service.database rfl⟩
  | handling context routine =>
    cases routine with
    | conclude reply => exact ⟨_, _, _, .replied⟩
    | execute statement next => exact ⟨_, _, _, .executed (.error Database.closed) service.database⟩
    | announce notice audience next => exact ⟨_, _, _, .announced⟩
    | act effect spares next => exact ⟨_, _, _, .acted⟩
  | replied context reply => exact ⟨_, _, _, .concluded service.database⟩
  | concluded principal response =>
    cases principal with
    | none => exact ⟨_, _, _, .passed⟩
    | some user => exact ⟨_, _, _, .recorded rfl⟩
  | returning principal response => exact ⟨_, _, _, .answered⟩
  | answered principal response => exact absurd rfl (h principal (some response))
  | broken => exact absurd rfl (h none none)

/-- Nothing but the limiter keeps a request from an answer, and only when it arrives. -/
theorem Step.goes_on {service after : Service σ} {visit later : Visit σ} {deed : Option Deed}
    (h : Step plan request service visit later after deed)
    (hbreaks : visit = .arriving → ¬Gate.Breaks request service) :
    later ≠ .arriving ∧ later ≠ .broken := by
  cases h with
  | broken _ hbroken => exact absurd hbroken (hbreaks rfl)
  | _ => exact ⟨nofun, nofun⟩

end Visit

/-! ### What a request tells -/

/-- The status that a reply is answered with. -/
def Reply.status : Reply → Nat
  | .response given => given.status
  | .panicked _ => 500

theorem Gate.status_conclude (context : Context) (reply : Reply) (service : Service σ) :
    (conclude context reply service).1.status = reply.status := by
  cases reply with
  | response given => rfl
  | panicked reason => rfl

theorem Service.status_trimmed (request : Request) (response : Response) :
    (trimmed request response).status = response.status := by
  unfold trimmed
  split <;> rfl

namespace Deed

def user? : Deed → Option Principal
  | identified user => some user
  | _ => none

def reply? : Deed → Option Reply
  | replied reply => some reply
  | _ => none

/-- The entry that was submitted, whether it was taken or not. -/
def entry? : Deed → Option AccessEntry
  | submitted (.logAccess entry) _ => some entry
  | _ => none

def response? : Deed → Option Response
  | answered response => some response
  | _ => none

end Deed

namespace Visit

/-- The user whom the request was let through for. -/
def user? : Visit σ → Option Principal
  | arriving | counted | broken => none
  | known principal | concluded principal _ | returning principal _ | answered principal _ =>
    principal
  | handling context _ | replied context _ => context.principal

/-- The status that the request is answered with, as soon as the handler has replied. -/
def status? : Visit σ → Option Nat
  | arriving | counted | known _ | handling _ _ | broken => none
  | replied _ reply => some reply.status
  | concluded _ response | returning _ response | answered _ response => some response.status

/-- The status in the entry about the request, once there is one. -/
def recorded? : Visit σ → Option Nat
  | returning _ response | answered _ response => some response.status
  | _ => none

def response? : Visit σ → Option Response
  | answered _ response => some response
  | _ => none

section Past

variable [LivenessStore σ] {plan : Context → Request → Routine σ} {request : Request}
  {service after : Service σ} {visit later : Visit σ} {deeds : List Deed} {deed : Option Deed}

/-- A request stands here after it did this, whatever others did in between. -/
inductive Past (plan : Context → Request → Routine σ) (request : Request) :
    Visit σ → List Deed → Prop
  | arriving : Past plan request .arriving []
  | step {service after : Service σ} {visit later : Visit σ} {deeds : List Deed}
    {deed : Option Deed} : Past plan request visit deeds →
      Step plan request service visit later after deed →
        Past plan request later (deeds ++ deed.toList)

/-- What a request did agrees with where it stands. -/
structure Accords (request : Request) (visit : Visit σ) (deeds : List Deed) : Prop where
  users : deeds.filterMap Deed.user? = visit.user?.toList
  replies : ∀ reply ∈ deeds.filterMap Deed.reply?, visit.status? = some reply.status
  entries : ∃ now, deeds.filterMap Deed.entry? =
    (visit.recorded?.bind fun status ↦
      visit.user?.map fun user ↦ Gate.entry request user status now).toList
  responses : deeds.filterMap Deed.response? = visit.response?.toList

theorem users_step (hstep : Step plan request service visit later after deed)
    (h : deeds.filterMap Deed.user? = visit.user?.toList) :
    (deeds ++ deed.toList).filterMap Deed.user? = later.user?.toList := by
  rw [List.filterMap_append, h]
  cases hstep with
  | @identified principal _ _ =>
    cases principal with
    | none => rfl
    | some user => rfl
  | opened context _ hcontext =>
    rw [← hcontext]
    exact List.append_nil _
  | _ => exact List.append_nil _

theorem responses_step (hstep : Step plan request service visit later after deed)
    (h : deeds.filterMap Deed.response? = visit.response?.toList) :
    (deeds ++ deed.toList).filterMap Deed.response? = later.response?.toList := by
  rw [List.filterMap_append, h]
  cases hstep with
  | @identified principal _ _ =>
    cases principal with
    | none => rfl
    | some user => rfl
  | _ => rfl

/-- Only a handler replies. -/
theorem reply?_of_step (hstep : Step plan request service visit later after deed) :
    deed.toList.filterMap Deed.reply? = [] ∨
      ∃ context reply, visit = .handling context (.conclude reply) ∧
        later = .replied context reply ∧ deed.toList.filterMap Deed.reply? = [reply] := by
  cases hstep with
  | @identified principal _ _ =>
    cases principal with
    | none => exact .inl rfl
    | some user => exact .inl rfl
  | replied => exact .inr ⟨_, _, rfl, rfl, rfl⟩
  | _ => exact .inl rfl

/-- A status that is known stays. -/
theorem status?_step (hstep : Step plan request service visit later after deed) {status : Nat}
    (h : visit.status? = some status) : later.status? = some status := by
  cases hstep with
  | concluded _ => exact (congrArg some (Gate.status_conclude _ _ _)).trans h
  | passed => exact h
  | recorded _ => exact h
  | answered => exact (congrArg some (Service.status_trimmed _ _)).trans h
  | _ => cases h

theorem replies_step (hstep : Step plan request service visit later after deed)
    (h : ∀ reply ∈ deeds.filterMap Deed.reply?, visit.status? = some reply.status) :
    ∀ reply ∈ (deeds ++ deed.toList).filterMap Deed.reply?, later.status? = some reply.status := by
  intro reply hmem
  rw [List.filterMap_append, List.mem_append] at hmem
  rcases hmem with hold | hnew
  · exact status?_step hstep (h reply hold)
  · rcases reply?_of_step hstep with hnone | ⟨context, given, rfl, rfl, hone⟩
    · rw [hnone] at hnew
      cases hnew
    · rw [hone] at hnew
      obtain rfl := List.mem_singleton.mp hnew
      rfl

/-- The entry follows as soon as the layer that writes entries has the response. -/
theorem entries_step (hstep : Step plan request service visit later after deed)
    (h : ∃ now, deeds.filterMap Deed.entry? =
      (visit.recorded?.bind fun status ↦
        visit.user?.map fun user ↦ Gate.entry request user status now).toList) :
    ∃ now, (deeds ++ deed.toList).filterMap Deed.entry? =
      (later.recorded?.bind fun status ↦
        later.user?.map fun user ↦ Gate.entry request user status now).toList := by
  obtain ⟨now, hentries⟩ := h
  simp only [List.filterMap_append, hentries]
  -- Once there is an entry, neither the user nor the status changes.
  cases hstep with
  | @identified principal _ _ =>
    cases principal with
    | none => exact ⟨now, rfl⟩
    | some user => exact ⟨now, rfl⟩
  | recorded hjob =>
    refine ⟨service.clock.millis, ?_⟩
    rw [hjob]
    rfl
  | answered =>
    refine ⟨now, ?_⟩
    simp only [recorded?, Service.status_trimmed]
    exact List.append_nil _
  | _ => exact ⟨now, rfl⟩

theorem Past.accords (h : Past plan request visit deeds) : Accords request visit deeds := by
  induction h with
  | arriving => exact ⟨rfl, fun _ hmem ↦ (nomatch hmem), ⟨0, rfl⟩, rfl⟩
  | step _ hstep ih =>
    exact ⟨users_step hstep ih.users, replies_step hstep ih.replies, entries_step hstep ih.entries,
      responses_step hstep ih.responses⟩

end Past

variable {visit : Visit σ} {response : Response}

theorem recorded?_of_response? (h : visit.response? = some response) :
    visit.recorded? = some response.status ∧ visit.status? = some response.status := by
  cases visit with
  | answered principal given =>
    obtain rfl := Option.some.inj h
    exact ⟨rfl, rfl⟩
  | _ => cases h

namespace Accords

variable {request : Request} {deeds : List Deed}

theorem user?_eq (h : Accords request visit deeds) {user : Principal}
    (hmem : .identified user ∈ deeds) : visit.user? = some user := by
  have huser : user ∈ deeds.filterMap Deed.user? := List.mem_filterMap.mpr ⟨_, hmem, rfl⟩
  rw [h.users, Option.mem_toList] at huser
  exact huser

theorem response?_eq (h : Accords request visit deeds) (hmem : .answered response ∈ deeds) :
    visit.response? = some response := by
  have hresponse : response ∈ deeds.filterMap Deed.response? :=
    List.mem_filterMap.mpr ⟨_, hmem, rfl⟩
  rw [h.responses, Option.mem_toList] at hresponse
  exact hresponse

theorem exists_entry (h : Accords request visit deeds) {user : Principal}
    (huser : .identified user ∈ deeds) (hresponse : .answered response ∈ deeds) :
    ∃ now, deeds.filterMap Deed.entry? = [Gate.entry request user response.status now] := by
  obtain ⟨now, hentries⟩ := h.entries
  rw [(recorded?_of_response? (h.response?_eq hresponse)).1, h.user?_eq huser] at hentries
  exact ⟨now, hentries⟩

theorem entries_eq_nil (h : Accords request visit deeds)
    (hnobody : ∀ user, .identified user ∉ deeds) : deeds.filterMap Deed.entry? = [] := by
  obtain ⟨now, hentries⟩ := h.entries
  have huser : visit.user? = none := by
    cases hsome : visit.user? with
    | none => rfl
    | some user =>
      have hmem : user ∈ deeds.filterMap Deed.user? := by
        rw [h.users, hsome]
        exact List.mem_cons_self
      obtain ⟨deed, hdeed, hidentified⟩ := List.mem_filterMap.mp hmem
      cases deed with
      | identified other =>
        obtain rfl := Option.some.inj hidentified
        exact absurd hdeed (hnobody other)
      | _ => cases hidentified
  rw [hentries, huser]
  cases visit.recorded? with
  | none => rfl
  | some status => rfl

theorem status_eq (h : Accords request visit deeds) {reply : Reply}
    (hreply : .replied reply ∈ deeds) (hresponse : .answered response ∈ deeds) :
    response.status = reply.status := by
  have hknown := h.replies reply (List.mem_filterMap.mpr ⟨_, hreply, rfl⟩)
  rw [(recorded?_of_response? (h.response?_eq hresponse)).2] at hknown
  exact Option.some.inj hknown

end Accords

end Visit

end StompBroker
