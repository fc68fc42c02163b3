import StompBroker.Proofs.Service.Credentials
import StompBroker.Proofs.Service.Traffic

/-!
# What becomes of jobs

The history of a `Traffic` tells which requests were let through for whom and how they were
answered, which jobs were submitted, and what the worker did with them.

A request comes to what it does by its own steps (`past_of_reachable`), so nobody else has a part in
the entry about it. The queue and the worker come through all steps of all requests in one of two
phases (`going_or_over`): as long as the worker has not stopped, every job that was taken into the
queue has left it in that order or waits (`Going`), and afterwards none is taken any more (`Over`).
A job that was refused found the queue full or the worker stopped (`refuses_of_reachable`), and one
that fails keeps the worker from none of those behind it (`Going.exists_labor`).
-/

set_option autoImplicit false

namespace StompBroker

variable {ι σ : Type}

/-! ### What the history tells -/

namespace Incident

def deed? [DecidableEq ι] (name : ι) : Incident ι → Option Deed
  | request other deed => if other = name then some deed else none
  | _ => none

/-- The job that was taken into the queue. -/
def accepted? : Incident ι → Option Job
  | request _ (.submitted job true) => some job
  | _ => none

/-- The job that the worker took. -/
def begun? : Incident ι → Option Job
  | took job => some job
  | _ => none

/-- The job that the worker was done with, and how it ended. -/
def finished? : Incident ι → Option (Job × Except Failure Unit)
  | finished job outcome => some (job, outcome)
  | _ => none

/-- It has nothing to do with a job, and is not the end of the worker. -/
def Plain : Incident ι → Prop
  | request _ (.submitted _ _) | took _ | finished _ _ | stopped => False
  | _ => True

theorem Plain.untold {incident : Incident ι} (h : incident.Plain) :
    incident.accepted? = none ∧ incident.begun? = none ∧ incident.finished? = none := by
  cases incident with
  | request name deed =>
    cases deed with
    | submitted job taken => cases h
    | _ => exact ⟨rfl, rfl, rfl⟩
  | shutdown => exact ⟨rfl, rfl, rfl⟩
  | _ => cases h

end Incident

namespace Traffic

/-- What a request did. -/
def deeds [DecidableEq ι] (name : ι) (history : List (Incident ι)) : List Deed :=
  history.filterMap (Incident.deed? name)

/-- The entries that a request submitted, whether they were taken or not. -/
def entries [DecidableEq ι] (name : ι) (history : List (Incident ι)) : List AccessEntry :=
  (deeds name history).filterMap Deed.entry?

/-- The jobs that were taken into the queue, in that order. -/
def accepted (history : List (Incident ι)) : List Job := history.filterMap Incident.accepted?

/-- The jobs that the worker took, in that order. -/
def begun (history : List (Incident ι)) : List Job := history.filterMap Incident.begun?

/-- The jobs that the worker was done with, in that order, and how they ended. -/
def finished (history : List (Incident ι)) : List (Job × Except Failure Unit) :=
  history.filterMap Incident.finished?

/-- The jobs that wait as long as the worker has not stopped. -/
def waiting (history : List (Incident ι)) : List Job :=
  (accepted history).drop (begun history).length

/-- The jobs that the worker is not done with. -/
def unfinished (history : List (Incident ι)) : List Job :=
  (accepted history).drop (finished history).length

section Append

variable (first second : List (Incident ι))

theorem accepted_append : accepted (first ++ second) = accepted first ++ accepted second :=
  List.filterMap_append

theorem begun_append : begun (first ++ second) = begun first ++ begun second :=
  List.filterMap_append

theorem finished_append : finished (first ++ second) = finished first ++ finished second :=
  List.filterMap_append

theorem accepted_submitted (name : ι) (job : Job) (taken : Bool) :
    accepted [.request name (.submitted job taken)] = JobQueue.taken [(job, taken)] := by
  cases taken with
  | false => rfl
  | true => rfl

/-- Plain incidents tell of no job. -/
theorem untold_of_plain {more : List (Incident ι)} (h : ∀ incident ∈ more, incident.Plain) :
    accepted more = [] ∧ begun more = [] ∧ finished more = [] ∧ .stopped ∉ more :=
  ⟨List.filterMap_eq_nil_iff.mpr fun incident hmem ↦ (h incident hmem).untold.1,
    List.filterMap_eq_nil_iff.mpr fun incident hmem ↦ (h incident hmem).untold.2.1,
    List.filterMap_eq_nil_iff.mpr fun incident hmem ↦ (h incident hmem).untold.2.2, h .stopped⟩

end Append

theorem mem_deeds_iff [DecidableEq ι] {name : ι} {history : List (Incident ι)} {deed : Deed} :
    deed ∈ deeds name history ↔ .request name deed ∈ history := by
  rw [deeds, List.mem_filterMap]
  constructor
  · rintro ⟨incident, hmem, hdeed⟩
    cases incident with
    | request other done =>
      by_cases hother : other = name
      · rw [Incident.deed?, if_pos hother] at hdeed
        obtain rfl := hother
        obtain rfl := Option.some.inj hdeed
        exact hmem
      · rw [Incident.deed?, if_neg hother] at hdeed
        cases hdeed
    | _ => cases hdeed
  · intro hmem
    exact ⟨_, hmem, if_pos rfl⟩

section Run

variable [DecidableEq ι] [LivenessStore σ] {plan : Context → Request → Routine σ}
  {request : ι → Request} {capacity : Nat} {traffic after : Traffic ι σ}

omit [LivenessStore σ] in
theorem deeds_move (traffic : Traffic ι σ) (name other : ι) (visit : Visit σ)
    (service : Service σ) (deed : Option Deed) :
    deeds other (traffic.move name visit service deed).history =
      deeds other traffic.history ++ if name = other then deed.toList else [] := by
  rw [move, deeds, List.filterMap_append]
  congr 1
  cases deed with
  | none => exact (ite_self _).symm
  | some deed =>
    by_cases hname : name = other
    · simp [Incident.deed?, hname]
    · simp [Incident.deed?, hname]

/-- A step of a request is one in the past of that request, and none in that of another. -/
theorem past_turn {name other : ι} (hturn : Turn plan request name traffic after)
    (h : Visit.Past plan (request other) (traffic.visits other) (deeds other traffic.history)) :
    Visit.Past plan (request other) (after.visits other) (deeds other after.history) := by
  obtain ⟨visit, service, deed, hstep, rfl⟩ := hturn
  rw [deeds_move]
  by_cases hname : name = other
  · obtain rfl := hname
    rw [if_pos rfl, visits_move_self]
    exact .step h hstep
  · rw [if_neg hname, List.append_nil, visits_move_of_ne traffic (Ne.symm hname)]
    exact h

/-- A request comes to what it does by its own steps. -/
theorem past_of_reachable (h : Reachable plan request capacity traffic) (name : ι) :
    Visit.Past plan (request name) (traffic.visits name) (deeds name traffic.history) := by
  induction h with
  | start service _ => exact .arriving
  | @step traffic after _ hstep ih =>
    have hquiet {incident : Incident ι} (hincident : incident.deed? name = none) :
        Visit.Past plan (request name) (traffic.visits name)
          (deeds name (traffic.history ++ [incident])) := by
      rw [deeds, List.filterMap_append, List.filterMap_cons_none hincident, List.filterMap_nil,
        List.append_nil]
      exact ih
    cases hstep with
    | turn other hturn => exact past_turn hturn ih
    | labor hlabor =>
      cases hlabor with
      | took _ _ => exact hquiet rfl
      | finished _ _ _ _ => exact hquiet rfl
    | shutdown => exact hquiet rfl
    | stopped _ _ => exact hquiet rfl
    | elsewhere _ _ => exact ih

end Run

end Traffic

/-! ### The queue and the worker -/

/-- The job that the worker has taken and is not done with. -/
def Worker.inHand : Worker → List Job
  | idle => []
  | busy job => [job]
  | stopped => []

theorem Worker.length_inHand (worker : Worker) : worker.inHand.length ≤ 1 := by
  cases worker with
  | idle => exact Nat.zero_le 1
  | busy job => exact Nat.le_refl 1
  | stopped => exact Nat.zero_le 1

namespace JobQueue

theorem accepts_iff {queue : JobQueue} :
    queue.accepts = true ↔ queue.stopped = false ∧ queue.waiting.length < queue.capacity := by
  simp only [accepts, Bool.and_eq_true, Bool.not_eq_true', decide_eq_true_eq]

end JobQueue

namespace Traffic

/-- The worker has not stopped: whatever was taken into the queue left it in that order, or
waits. -/
structure Going (capacity : Nat) (traffic : Traffic ι σ) : Prop where
  unstopped : .stopped ∉ traffic.history
  opened : traffic.service.queue.stopped = false
  worker_ne : traffic.worker ≠ .stopped
  capacity_eq : traffic.service.queue.capacity = max capacity 1
  fits : traffic.service.queue.waiting.length ≤ max capacity 1
  accepted_eq : accepted traffic.history =
    begun traffic.history ++ traffic.service.queue.waiting
  begun_eq : begun traffic.history =
    (finished traffic.history).map (·.1) ++ traffic.worker.inHand

/-- The worker has stopped, and left the jobs that still waited. -/
structure Over (traffic : Traffic ι σ) : Prop where
  stopped : .stopped ∈ traffic.history
  told : .shutdown ∈ traffic.history
  closed : traffic.service.queue.stopped = true
  worker_eq : traffic.worker = .stopped
  begun_isPrefix : begun traffic.history <+: accepted traffic.history
  begun_eq : begun traffic.history = (finished traffic.history).map (·.1)

section Phases

variable {capacity : Nat} {traffic after : Traffic ι σ} {more : List (Incident ι)}

theorem Going.start {service : Service σ} (h : service.queue = .ofCapacity capacity) :
    Going capacity ({ service } : Traffic ι σ) := by
  constructor
  case unstopped => exact List.not_mem_nil
  case opened => rw [h, JobQueue.ofCapacity]
  case worker_ne => exact nofun
  case capacity_eq => rw [h, JobQueue.ofCapacity]
  case fits =>
    rw [h]
    exact Nat.zero_le _
  case accepted_eq =>
    rw [h]
    rfl
  case begun_eq => rfl

/-- Jobs that come in behind those that wait, and leave in front of them, leave in the order in
which they came: what was in the queue and what came in is what left it and what is in it, and the
same holds of the worker. -/
theorem Going.append (h : Going capacity traffic)
    (hhistory : after.history = traffic.history ++ more) (hstopped : .stopped ∉ more)
    (hopened : after.service.queue.stopped = false) (hworker : after.worker ≠ .stopped)
    (hcapacity : after.service.queue.capacity = traffic.service.queue.capacity)
    (hfits : after.service.queue.waiting.length ≤ max capacity 1)
    (hwaiting : traffic.service.queue.waiting ++ accepted more =
      begun more ++ after.service.queue.waiting)
    (hinHand : traffic.worker.inHand ++ begun more =
      (finished more).map (·.1) ++ after.worker.inHand) :
    Going capacity after := by
  refine ⟨?_, hopened, hworker, hcapacity.trans h.capacity_eq, hfits, ?_, ?_⟩
  · rw [hhistory, List.mem_append]
    exact not_or.mpr ⟨h.unstopped, hstopped⟩
  · rw [hhistory, accepted_append, begun_append, h.accepted_eq, List.append_assoc, hwaiting,
      List.append_assoc]
  · rw [hhistory, begun_append, finished_append, h.begun_eq, List.append_assoc, hinHand,
      List.map_append, List.append_assoc]

/-- Nothing happens to the queue, to a job or to the worker. -/
structure Quiet (traffic after : Traffic ι σ) : Prop where
  queue_eq : after.service.queue = traffic.service.queue
  worker_eq : after.worker = traffic.worker
  plain : ∃ more, after.history = traffic.history ++ more ∧ ∀ incident ∈ more, incident.Plain

theorem Going.quiet (h : Going capacity traffic) (hquiet : Quiet traffic after) :
    Going capacity after := by
  obtain ⟨more, hhistory, hplain⟩ := hquiet.plain
  obtain ⟨haccepted, hbegun, hfinished, hstopped⟩ := untold_of_plain hplain
  have hqueue := hquiet.queue_eq
  refine h.append hhistory hstopped ?_ ?_ ?_ ?_ ?_ ?_
  · rw [hqueue, h.opened]
  · rw [hquiet.worker_eq]
    exact h.worker_ne
  · rw [hqueue]
  · rw [hqueue]
    exact h.fits
  · rw [haccepted, hbegun, hqueue, List.append_nil, List.nil_append]
  · rw [hbegun, hfinished, hquiet.worker_eq, List.append_nil, List.map_nil, List.nil_append]

/-- A request submits a job. -/
structure Submits (name : ι) (job : Job) (traffic after : Traffic ι σ) : Prop where
  queue_eq : after.service.queue = (traffic.service.queue.submit job).2
  worker_eq : after.worker = traffic.worker
  told : after.history =
    traffic.history ++ [.request name (.submitted job traffic.service.queue.accepts)]

/-- A job that is submitted waits behind all others, or is refused. -/
theorem Going.submits {name : ι} {job : Job} (h : Going capacity traffic)
    (hsubmits : Submits name job traffic after) : Going capacity after := by
  have hqueue := hsubmits.queue_eq
  rw [JobQueue.submit_eq] at hqueue
  refine h.append hsubmits.told ?_ ?_ ?_ ?_ ?_ ?_ ?_
  · rw [List.mem_singleton]
    exact nofun
  · rw [hqueue]
    exact h.opened
  · rw [hsubmits.worker_eq]
    exact h.worker_ne
  · rw [hqueue, JobQueue.followedBy]
  · rw [hqueue, JobQueue.waiting_followedBy, List.length_append]
    cases haccepts : traffic.service.queue.accepts with
    | false => exact h.fits
    | true =>
      rw [← h.capacity_eq]
      exact (JobQueue.accepts_iff.mp haccepts).2
  · rw [hqueue, accepted_submitted]
    rfl
  · rw [hsubmits.worker_eq]
    exact List.append_nil _

/-- The worker takes the first of the jobs that wait, and is done with the one that it took. -/
theorem Going.labor (h : Going capacity traffic) (hlabor : Labor traffic after) :
    Going capacity after := by
  cases hlabor with
  | took hidle hwaiting =>
    refine h.append rfl ?_ h.opened nofun rfl ?_ ?_ ?_
    · rw [List.mem_singleton]
      exact nofun
    · have hfits := h.fits
      rw [hwaiting] at hfits
      exact Nat.le_of_succ_le hfits
    · exact (List.append_nil _).trans hwaiting
    · rw [hidle]
      rfl
  | finished outcome service hbusy hqueue =>
    refine h.append rfl ?_ ?_ nofun ?_ ?_ ?_ ?_
    · rw [List.mem_singleton]
      exact nofun
    · exact (congrArg JobQueue.stopped hqueue).trans h.opened
    · exact congrArg JobQueue.capacity hqueue
    · rw [hqueue]
      exact h.fits
    · exact (List.append_nil _).trans (congrArg JobQueue.waiting hqueue).symm
    · rw [hbusy]
      rfl

/-- The worker stops, as it was told to. -/
structure Stops (traffic after : Traffic ι σ) : Prop where
  idle : traffic.worker = .idle
  told : .shutdown ∈ traffic.history
  worker_eq : after.worker = .stopped
  queue_eq : after.service.queue = traffic.service.queue.abandoned
  history_eq : after.history = traffic.history ++ [.stopped]

theorem Going.stops (h : Going capacity traffic) (hstops : Stops traffic after) : Over after := by
  have hbegun : begun after.history = begun traffic.history := by
    rw [hstops.history_eq, begun_append]
    exact List.append_nil _
  constructor
  case stopped =>
    rw [hstops.history_eq]
    exact List.mem_append_right _ List.mem_cons_self
  case told =>
    rw [hstops.history_eq]
    exact List.mem_append_left _ hstops.told
  case closed => rw [hstops.queue_eq, JobQueue.abandoned]
  case worker_eq => exact hstops.worker_eq
  case begun_isPrefix =>
    rw [hbegun, hstops.history_eq, accepted_append, h.accepted_eq, List.append_assoc]
    exact List.prefix_append _ _
  case begun_eq =>
    have hnone : Worker.idle.inHand = [] := rfl
    rw [hbegun, hstops.history_eq, finished_append, h.begun_eq, hstops.idle, hnone,
      List.append_nil]
    exact (congrArg _ (List.append_nil _)).symm

/-- Once the worker has stopped nothing more is taken. -/
theorem Over.append (h : Over traffic) (hhistory : after.history = traffic.history ++ more)
    (hclosed : after.service.queue.stopped = true) (hworker : after.worker = .stopped)
    (haccepted : accepted more = []) (hbegun : begun more = []) (hfinished : finished more = []) :
    Over after := by
  constructor
  case stopped =>
    rw [hhistory]
    exact List.mem_append_left _ h.stopped
  case told =>
    rw [hhistory]
    exact List.mem_append_left _ h.told
  case closed => exact hclosed
  case worker_eq => exact hworker
  case begun_isPrefix =>
    rw [hhistory, begun_append, accepted_append, haccepted, hbegun, List.append_nil,
      List.append_nil]
    exact h.begun_isPrefix
  case begun_eq =>
    rw [hhistory, begun_append, finished_append, hbegun, hfinished, List.append_nil,
      List.append_nil, h.begun_eq]

theorem Over.quiet (h : Over traffic) (hquiet : Quiet traffic after) : Over after := by
  obtain ⟨more, hhistory, hplain⟩ := hquiet.plain
  obtain ⟨haccepted, hbegun, hfinished, -⟩ := untold_of_plain hplain
  refine h.append hhistory ?_ ?_ haccepted hbegun hfinished
  · rw [hquiet.queue_eq, h.closed]
  · rw [hquiet.worker_eq, h.worker_eq]

theorem Over.accepts_eq (h : Over traffic) : traffic.service.queue.accepts = false := by
  rw [JobQueue.accepts, h.closed]
  rfl

/-- A worker that has stopped does nothing, and does not stop again. -/
theorem Over.not_labor (h : Over traffic) : ¬Labor traffic after := by
  intro hlabor
  cases hlabor with
  | took hidle _ => cases h.worker_eq.symm.trans hidle
  | finished _ _ hbusy _ => cases h.worker_eq.symm.trans hbusy

theorem Over.not_stops (h : Over traffic) : ¬Stops traffic after :=
  fun hstops ↦ nomatch h.worker_eq.symm.trans hstops.idle

theorem Over.submits {name : ι} {job : Job} (h : Over traffic)
    (hsubmits : Submits name job traffic after) : Over after := by
  have hqueue := hsubmits.queue_eq
  have htold := hsubmits.told
  rw [JobQueue.submit_eq, h.accepts_eq] at hqueue
  rw [h.accepts_eq] at htold
  refine h.append htold ?_ ?_ rfl rfl rfl
  · rw [hqueue]
    exact h.closed
  · rw [hsubmits.worker_eq, h.worker_eq]

/-- Jobs that wait are all that was taken into the queue and not by the worker. -/
theorem Going.waiting_eq (h : Going capacity traffic) :
    waiting traffic.history = traffic.service.queue.waiting := by
  rw [waiting, h.accepted_eq, List.drop_left]

/-- A job is refused by a full queue, and by one whose worker has stopped. -/
theorem accepts_eq_false_iff (h : Going capacity traffic ∨ Over traffic) :
    traffic.service.queue.accepts = false ↔
      .stopped ∈ traffic.history ∨ (waiting traffic.history).length = max capacity 1 := by
  rcases h with hgoing | hover
  · rw [or_iff_right hgoing.unstopped, hgoing.waiting_eq, ← Bool.not_eq_true, JobQueue.accepts_iff,
      and_iff_right hgoing.opened, hgoing.capacity_eq, Nat.not_lt]
    exact ⟨Nat.le_antisymm hgoing.fits, fun hfull ↦ Nat.le_of_eq hfull.symm⟩
  · exact iff_of_true hover.accepts_eq (.inl hover.stopped)

end Phases

section Run

variable [DecidableEq ι] [LivenessStore σ] {plan : Context → Request → Routine σ}
  {request : ι → Request} {capacity : Nat} {traffic after : Traffic ι σ}

/-- All that a step does to the queue, to jobs and to the worker. -/
theorem step_cases (hstep : Step plan request traffic after) :
    Quiet traffic after ∨ (∃ name job, Submits name job traffic after) ∨ Labor traffic after ∨
      Stops traffic after := by
  cases hstep with
  | turn name hturn =>
    obtain ⟨visit, service, deed, hstep, rfl⟩ := hturn
    rcases hstep.queue with ⟨hqueue, hnone⟩ | ⟨job, hqueue, rfl⟩
    · refine .inl ⟨hqueue, rfl, (deed.map (Incident.request name)).toList, rfl, ?_⟩
      intro incident hmem
      obtain ⟨done, rfl, rfl⟩ := Option.map_eq_some_iff.mp (Option.mem_toList.mp hmem)
      cases done with
      | submitted job taken => exact absurd rfl (hnone job taken)
      | _ => trivial
    · exact .inr (.inl ⟨name, job, hqueue, rfl, rfl⟩)
  | labor hlabor => exact .inr (.inr (.inl hlabor))
  | shutdown =>
    refine .inl ⟨rfl, rfl, [.shutdown], rfl, fun incident hmem ↦ ?_⟩
    obtain rfl := List.mem_singleton.mp hmem
    trivial
  | stopped hidle htold => exact .inr (.inr (.inr ⟨hidle, htold, rfl, rfl, rfl⟩))
  | elsewhere service hqueue =>
    exact .inl ⟨hqueue, rfl, [], (List.append_nil _).symm, fun _ hmem ↦ nomatch hmem⟩

theorem going_or_over (h : Reachable plan request capacity traffic) :
    Going capacity traffic ∨ Over traffic := by
  induction h with
  | start service hqueue => exact .inl (.start hqueue)
  | step _ hstep ih =>
    rcases step_cases hstep with hquiet | ⟨name, job, hsubmits⟩ | hlabor | hstops
    · exact ih.imp (·.quiet hquiet) (·.quiet hquiet)
    · exact ih.imp (·.submits hsubmits) (·.submits hsubmits)
    · rcases ih with hgoing | hover
      · exact .inl (hgoing.labor hlabor)
      · exact absurd hlabor hover.not_labor
    · rcases ih with hgoing | hover
      · exact .inr (hgoing.stops hstops)
      · exact absurd hstops hover.not_stops

/-! ### Refusals -/

/-- Of the jobs that were submitted, those were refused that found as many waiting as the queue is
for, which is one at least, or the worker stopped. -/
def Refuses (capacity : Nat) (history : List (Incident ι)) : Prop :=
  ∀ before name job taken later,
    history = before ++ .request name (.submitted job taken) :: later →
      (taken = false ↔ .stopped ∈ before ∨ (waiting before).length = max capacity 1)

omit [DecidableEq ι] in
theorem Refuses.append {history more : List (Incident ι)} (h : Refuses capacity history)
    (hmore : ∀ before name job taken later,
      more = before ++ .request name (.submitted job taken) :: later →
        (taken = false ↔ .stopped ∈ history ++ before ∨
          (waiting (history ++ before)).length = max capacity 1)) :
    Refuses capacity (history ++ more) := by
  intro before name job taken later heq
  -- The submission is one of those that were added, or one of the others.
  rcases List.append_eq_append_iff.mp heq with ⟨front, rfl, hfront⟩ | ⟨front, hfront, hback⟩
  · exact hmore front name job taken later hfront
  cases front with
  | nil =>
    rw [List.append_nil] at hfront
    have hlast := hmore [] name job taken later hback.symm
    rwa [List.append_nil, hfront] at hlast
  | cons first rest =>
    obtain ⟨rfl, rfl⟩ := List.cons.inj hback
    exact h before name job taken rest hfront

omit [DecidableEq ι] in
/-- One more incident is a submission that is refused if and only if there is a reason to, or none
at all. -/
theorem Refuses.concat {history : List (Incident ι)} {incident : Incident ι}
    (h : Refuses capacity history)
    (hincident : ∀ name job taken, incident = .request name (.submitted job taken) →
      (taken = false ↔ .stopped ∈ history ∨ (waiting history).length = max capacity 1)) :
    Refuses capacity (history ++ [incident]) := by
  refine h.append fun before name job taken later heq ↦ ?_
  cases before with
  | nil =>
    rw [List.append_nil]
    exact hincident name job taken (List.cons.inj heq).1
  | cons first rest => cases rest <;> cases (List.cons.inj heq).2

theorem refuses_of_reachable (h : Reachable plan request capacity traffic) :
    Refuses capacity traffic.history := by
  induction h with
  | start service _ =>
    intro before name job taken later heq
    cases before <;> cases heq
  | @step traffic after hreachable hstep ih =>
    rcases step_cases hstep with hquiet | ⟨name, job, hsubmits⟩ | hlabor | hstops
    · obtain ⟨more, hhistory, hplain⟩ := hquiet.plain
      rw [hhistory]
      refine ih.append fun before name job taken later heq ↦ ?_
      have hmem : .request name (.submitted job taken) ∈ more := by
        rw [heq]
        exact List.mem_append_right _ List.mem_cons_self
      exact (hplain _ hmem).elim
    · rw [hsubmits.told]
      refine ih.concat fun name' job' taken heq ↦ ?_
      cases heq
      exact accepts_eq_false_iff (going_or_over hreachable)
    · cases hlabor with
      | took _ _ => exact ih.concat nofun
      | finished _ _ _ _ => exact ih.concat nofun
    · rw [hstops.history_eq]
      exact ih.concat nofun

end Run

/-! ### The worker goes on -/

section Labor

variable {traffic : Traffic ι σ} {capacity : Nat}

/-- A worker that is idle gets through all jobs that wait, however each of them ends. -/
theorem exists_labor_of_idle {outcomes : List (Except Failure Unit)}
    (hidle : traffic.worker = .idle)
    (hlength : outcomes.length = traffic.service.queue.waiting.length) :
    ∃ after, Relation.ReflTransGen Labor traffic after ∧
      finished after.history =
        finished traffic.history ++ traffic.service.queue.waiting.zip outcomes := by
  induction outcomes generalizing traffic with
  | nil =>
    refine ⟨traffic, .refl, ?_⟩
    rw [List.zip_nil_right, List.append_nil]
  | cons outcome outcomes ih =>
    cases hwaiting : traffic.service.queue.waiting with
    | nil =>
      rw [hwaiting] at hlength
      cases hlength
    | cons job rest =>
      have hlabor := labor_workOnce hidle hwaiting outcome
      have hrest : traffic.service.workOnce.queue.waiting = rest :=
        congrArg JobQueue.waiting (Service.queue_workOnce hwaiting)
      rw [hwaiting, ← hrest] at hlength
      obtain ⟨after, hlater, hfinished⟩ := @ih
        { traffic with
          service := traffic.service.workOnce
          history := traffic.history ++ [.took job, .finished job outcome] } hidle
        (Nat.succ.inj hlength)
      refine ⟨after, hlabor.trans hlater, hfinished.trans ?_⟩
      rw [finished_append, hrest, List.append_assoc]
      rfl

theorem Going.unfinished_eq (h : Going capacity traffic) :
    unfinished traffic.history = traffic.worker.inHand ++ traffic.service.queue.waiting := by
  have hlength : (finished traffic.history).length =
      ((finished traffic.history).map (·.1)).length := (List.length_map _).symm
  rw [unfinished, h.accepted_eq, h.begun_eq, List.append_assoc, hlength, List.drop_left]

/-- A worker that has not stopped gets through all jobs, however each of them ends. -/
theorem Going.exists_labor (h : Going capacity traffic) {outcomes : List (Except Failure Unit)}
    (hlength : outcomes.length = (unfinished traffic.history).length) :
    ∃ after, Relation.ReflTransGen Labor traffic after ∧
      finished after.history =
        finished traffic.history ++ (unfinished traffic.history).zip outcomes := by
  rw [h.unfinished_eq] at hlength ⊢
  cases hworker : traffic.worker with
  | idle =>
    rw [hworker] at hlength
    exact exists_labor_of_idle hworker hlength
  | busy job =>
    rw [hworker] at hlength
    cases outcomes with
    | nil => cases hlength
    | cons outcome outcomes =>
      let resting : Traffic ι σ :=
        { traffic with
          worker := .idle
          history := traffic.history ++ [.finished job outcome] }
      have hfinished : Labor traffic resting := .finished outcome traffic.service hworker rfl
      have hidle : resting.worker = .idle := rfl
      obtain ⟨after, hlater, hall⟩ := exists_labor_of_idle hidle (Nat.succ.inj hlength)
      refine ⟨after, .head hfinished hlater, hall.trans ?_⟩
      rw [finished_append, List.append_assoc]
      rfl
  | stopped => exact absurd hworker h.worker_ne

end Labor

/-! ### Every request and every job -/

/-- What became of requests and jobs, whoever went on when. -/
structure Accounted [DecidableEq ι] [LivenessStore σ] (plan : Context → Request → Routine σ)
    (request : ι → Request) (capacity : Nat) (traffic : Traffic ι σ) : Prop where
  /-- A request that was let through for a user submits one entry, about that user and with the
  status that it is answered with. -/
  recorded : ∀ name user response, .request name (.identified user) ∈ traffic.history →
    .request name (.answered response) ∈ traffic.history →
      ∃ entry, entries name traffic.history = [entry] ∧ entry.username = some user.username ∧
        entry.method = (request name).method ∧ entry.path = (request name).path ∧
          entry.status = response.status
  /-- It never submits a second one. -/
  recorded_once : ∀ name, (entries name traffic.history).length ≤ 1
  /-- Every other request submits none. -/
  unrecorded : ∀ name, (∀ user, .request name (.identified user) ∉ traffic.history) →
    entries name traffic.history = []
  /-- The status is that of the handler's reply, or 500 if the handler broke off. -/
  status_eq : ∀ name reply response, .request name (.replied reply) ∈ traffic.history →
    .request name (.answered response) ∈ traffic.history → response.status = reply.status
  /-- Every request can go on until it is answered, whatever the others do, unless the limiter broke
  it off, or would do so now. -/
  answerable : ∀ name, traffic.visits name ≠ .broken →
    (traffic.visits name = .arriving → ¬Gate.Breaks (request name) traffic.service) →
    ∃ after response, Relation.ReflTransGen (Turn plan request name) traffic after ∧
      .request name (.answered response) ∈ after.history
  /-- Jobs are refused for two reasons only. -/
  refuses : Refuses capacity traffic.history
  /-- The jobs that were accepted are processed one after the other, in that order. -/
  begun_isPrefix : begun traffic.history <+: accepted traffic.history
  finished_isPrefix : (finished traffic.history).map (·.1) <+: begun traffic.history
  length_begun : (begun traffic.history).length ≤ (finished traffic.history).length + 1
  /-- The worker stops only if it is told to, and not because a job failed. -/
  told : .stopped ∈ traffic.history → .shutdown ∈ traffic.history
  /-- Until it stops it gets through all jobs, however each of them ends. -/
  exists_labor : .stopped ∉ traffic.history → ∀ outcomes : List (Except Failure Unit),
    outcomes.length = (unfinished traffic.history).length →
      ∃ after, Relation.ReflTransGen Labor traffic after ∧
        finished after.history =
          finished traffic.history ++ (unfinished traffic.history).zip outcomes

variable [DecidableEq ι] [LivenessStore σ] {plan : Context → Request → Routine σ}
  {request : ι → Request} {capacity : Nat} {traffic after : Traffic ι σ}

theorem Reachable.turns {name : ι} (h : Reachable plan request capacity traffic)
    (hturns : Relation.ReflTransGen (Turn plan request name) traffic after) :
    Reachable plan request capacity after := by
  induction hturns with
  | refl => exact h
  | tail _ hturn ih => exact .step ih (.turn name hturn)

theorem Reachable.exists_answered (h : Reachable plan request capacity traffic) (name : ι)
    (hgoing : traffic.visits name ≠ .broken)
    (hbreaks : traffic.visits name = .arriving → ¬Gate.Breaks (request name) traffic.service) :
    ∃ after response, Relation.ReflTransGen (Turn plan request name) traffic after ∧
      .request name (.answered response) ∈ after.history := by
  obtain ⟨after, principal, response, hturns, hvisit⟩ : ∃ after principal response,
      Relation.ReflTransGen (Turn plan request name) traffic after ∧
        after.visits name = .answered principal response :=
    exists_turns_answered name traffic hgoing hbreaks
  have hresponses := (past_of_reachable (h.turns hturns) name).accords.responses
  have hmem : response ∈ (deeds name after.history).filterMap Deed.response? := by
    rw [hresponses, hvisit]
    exact List.mem_cons_self
  obtain ⟨deed, hdeed, hanswered⟩ := List.mem_filterMap.mp hmem
  cases deed with
  | answered given =>
    obtain rfl := Option.some.inj hanswered
    exact ⟨after, given, hturns, mem_deeds_iff.mp hdeed⟩
  | _ => cases hanswered

/-- For every capacity and in every order of steps, requests are recorded and jobs processed as they
should be. -/
theorem accounted_of_reachable (h : Reachable plan request capacity traffic) :
    Accounted plan request capacity traffic := by
  have haccords (name : ι) := (past_of_reachable h name).accords
  have hphase := going_or_over h
  constructor
  case recorded =>
    intro name user response huser hresponse
    obtain ⟨now, hentries⟩ :=
      (haccords name).exists_entry (mem_deeds_iff.mpr huser) (mem_deeds_iff.mpr hresponse)
    exact ⟨_, hentries, rfl, rfl, rfl, rfl⟩
  case recorded_once =>
    intro name
    obtain ⟨now, hentries⟩ := (haccords name).entries
    rw [entries, hentries]
    exact Option.length_toList_le
  case unrecorded =>
    intro name hnobody
    exact (haccords name).entries_eq_nil fun user hmem ↦ hnobody user (mem_deeds_iff.mp hmem)
  case status_eq =>
    intro name reply response hreply hresponse
    exact (haccords name).status_eq (mem_deeds_iff.mpr hreply) (mem_deeds_iff.mpr hresponse)
  case answerable => exact h.exists_answered
  case refuses => exact refuses_of_reachable h
  case begun_isPrefix =>
    rcases hphase with hgoing | hover
    · rw [hgoing.accepted_eq]
      exact List.prefix_append _ _
    · exact hover.begun_isPrefix
  case finished_isPrefix =>
    rcases hphase with hgoing | hover
    · rw [hgoing.begun_eq]
      exact List.prefix_append _ _
    · exact hover.begun_eq ▸ List.prefix_rfl
  case length_begun =>
    rcases hphase with hgoing | hover
    · rw [hgoing.begun_eq, List.length_append, List.length_map]
      exact Nat.add_le_add_left traffic.worker.length_inHand _
    · rw [hover.begun_eq, List.length_map]
      exact Nat.le_succ _
  case told =>
    intro hstopped
    rcases hphase with hgoing | hover
    · exact absurd hstopped hgoing.unstopped
    · exact hover.told
  case exists_labor =>
    intro hunstopped outcomes hlength
    rcases hphase with hgoing | hover
    · exact hgoing.exists_labor hlength
    · exact absurd hover.stopped hunstopped

end Traffic

/-! ### A request that breaks off -/

/-- The response to a request that is handed on is that of its handler. -/
theorem Gate.HandsOn.fst_guarded [LivenessStore σ] {request : Request} {service ready : Service σ}
    {principal : Option Principal} (h : HandsOn request service principal ready)
    (handler : Handler σ) :
    (guarded handler request service).1 =
      some (inTransaction handler request principal ready).1 :=
  (congrArg Prod.fst (h (inTransaction handler))).trans (fst_handed _ _ _ _)

/-- A handler that breaks off is answered for with 500. -/
theorem Gate.status_inTransaction_of_panicked {request : Request} {service : Service σ}
    {reason : String} (hpath : request.path ≠ socketPath)
    (htransactions : service.database.hasTransactions = true)
    (hopen : service.database.isOpen = true) (principal : Option Principal) :
    (inTransaction (Routine.handler fun _ _ ↦ .conclude (.panicked reason)) request principal
      service).1.status = 500 := by
  rw [inTransaction_opened _ hpath htransactions hopen]
  rfl

namespace Desk

/-- Every handler breaks off. -/
def breaking (_ : Context) (_ : Request) : Routine LivenessCache := .conclude (.panicked "x")

/-- A request of alice. -/
def inquiry : Request := request "GET" "/api/v1/websocket/online-count" ""

theorem not_inFront_inquiry : ¬inquiry.InFront := by
  have hmethod : inquiry.method = "GET" := rfl
  have hpath : inquiry.path = "/api/v1/websocket/online-count" := rfl
  rw [Request.InFront, hmethod, hpath]
  decide

theorem status_guarded_inquiry {ready : Service LivenessCache}
    (hready : Gate.HandsOn inquiry (service {}) (some alice) ready)
    (huntouched : Gate.Untouched (service {}) ready) :
    ∃ response, (Gate.guarded (Routine.handler breaking) inquiry (service {})).1 = some response ∧
      response.status = 500 := by
  have hdatabase : ready.database = (service {}).database := by rw [huntouched.same]
  refine ⟨_, hready.fst_guarded _, ?_⟩
  apply Gate.status_inTransaction_of_panicked
  case hpath => exact fun hsocket ↦ not_inFront_inquiry (.inr hsocket)
  case htransactions =>
    rw [hdatabase]
    rfl
  case hopen =>
    rw [hdatabase]
    rfl

end Desk

namespace Traffic

/-- The entry about alice's request tells that it was answered with 500. -/
theorem accounted_of_reachable_inquiry :
    ∃ traffic : Traffic Unit LivenessCache,
      Reachable Desk.breaking (fun _ ↦ Desk.inquiry) Desk.settings.queueCapacity traffic ∧
      Accounted Desk.breaking (fun _ ↦ Desk.inquiry) Desk.settings.queueCapacity traffic ∧
      ∃ now, entries () traffic.history = [Gate.entry Desk.inquiry Desk.alice 500 now] := by
  have hneeds : Desk.settings.access.requiresToken "/api/v1/websocket/online-count" = true := by
    decide
  obtain ⟨ready, hready, huntouched⟩ :=
    Desk.exists_handsOn_request {} (fun _ ↦ none) "GET" "" hneeds
  have halone : Visit.Alone Desk.breaking Desk.inquiry (Desk.service {}, .arriving) (_, _) :=
    Visit.alone_guarded_of_ok Desk.not_inFront_inquiry rfl hready.verdict_eq
  let start : Traffic Unit LivenessCache := { service := Desk.service {} }
  have hstart : Reachable Desk.breaking (fun _ ↦ Desk.inquiry) Desk.settings.queueCapacity start :=
    .start _ rfl
  obtain ⟨traffic, hturns, -, hvisits, -⟩ : ∃ after : Traffic Unit LivenessCache,
      Relation.ReflTransGen (Turn Desk.breaking (fun _ ↦ Desk.inquiry) ()) start after ∧ _ :=
    exists_turns halone
  have hreachable := hstart.turns hturns
  have haccounted := accounted_of_reachable hreachable
  obtain ⟨response, hresponse, hstatus⟩ := Desk.status_guarded_inquiry hready huntouched
  have hvisit : traffic.visits () =
      .answered (some Desk.alice) (Service.trimmed Desk.inquiry response) := by
    rw [hvisits, Function.update_self, hresponse]
    rfl
  have haccords := (past_of_reachable hreachable ()).accords
  obtain ⟨now, hentries⟩ := haccords.entries
  refine ⟨traffic, hreachable, haccounted, now, ?_⟩
  rw [hvisit] at hentries
  refine hentries.trans ?_
  rw [Visit.recorded?, Service.status_trimmed, hstatus]
  rfl

end Traffic

end StompBroker
