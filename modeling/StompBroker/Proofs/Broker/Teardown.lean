import StompBroker.Proofs.Broker.Accounting
import StompBroker.Proofs.Broker.Connection

/-!
# What a teardown leaves

A session is torn down when anybody asks for it, when its reading half comes to its end, and when
that panics (`Ended`). The broker then stands where no operation leads: frames of a message were
handled before, and the acts for the last one may have broken off anywhere (`BrokenOff`). `Passages`
are the runs of a broker in which such teardowns happen between operations.

After each passage the broker is `Sound` again. So whatever happened before, a `Teardown` takes away
all of its session and nothing else, and the session is `Finished`: however often and by whomever it
is torn down later, its connection is closed once, and nothing is written to it any more
(`disposes_of_passages`).
-/

set_option autoImplicit false

namespace StompBroker.Broker

variable {allowed : Setting → Broker → Operation → Prop} {setting : Setting}
  {operation : Operation} {origin broker middle last after later : Broker}
  {id other : SessionId} {session : Session} {socket next : Socket} {reading read : Reading}
  {frames : List Frame} {handled : List Handled} {flow : Flow}

/-! ### Passages -/

/-- Where a broker may stand when the teardown of a session begins. -/
inductive Ended (id : SessionId) (broker : Broker) : Broker → Prop
  /-- Anybody asks for it, whether or not the session is live. -/
  | asked : Ended id broker broker
  /-- The reading half came to its end. -/
  | returned {setting : Setting} {socket next : Socket} {arrival : Arrival} {last : Broker} :
    next.id = id → socket.step setting broker arrival = (.close, next, last) →
      Ended id broker last
  | panicked {setting : Setting} {socket : Socket} {handled : List Handled} {broken : Broker} :
    socket.id = id → socket.Breaks setting broker handled broken → Ended id broker broken

/-- What happens to a broker next. -/
inductive Passage (broker : Broker) : Broker → Prop
  | performed {setting : Setting} {operation : Operation} :
    operation.Fresh broker → Passage broker (broker.run setting operation)
  | ended {id : SessionId} {last : Broker} :
    Ended id broker last → Passage broker (last.closeSession id)

/-- What happens to a broker. -/
abbrev Passages : Broker → Broker → Prop :=
  Relation.ReflTransGen Passage

/-- The acts for a client broke off, if there were any; nothing was written for one that is not
live. -/
inductive BrokenOff (id : SessionId) (broker : Broker) : Broker → Prop
  | idle : BrokenOff id broker broker
  | acting {setting : Setting} {last : Broker} :
    Acts setting (some id) broker last →
      (broker.registry.get? id = none → last.journal = broker.journal) → BrokenOff id broker last

theorem Later.trans (h : Later allowed broker middle) (h' : Later allowed middle later) :
    Later allowed broker later := by
  induction h' with
  | refl => exact h
  | step _ hfresh hallowed ih => exact .step ih hfresh hallowed

theorem later_run (setting : Setting) (operation : Operation) (hfresh : operation.Fresh broker) :
    Later Anything broker (broker.run setting operation) := .step .refl hfresh trivial

theorem later_dispatch {frame : Frame} {version : Option Version}
    (h : Socket.dispatch setting id frame broker = (flow, version, after)) :
    Later Anything broker after := by
  have hafter : broker.run setting (.handleFrame id frame) = after := by
    rw [Socket.dispatch, Prod.mk.injEq, Prod.mk.injEq] at h
    exact h.2.2
  exact hafter ▸ later_run setting (.handleFrame id frame) trivial

theorem later_heard (h : Socket.Heard setting id reading frames read) :
    Later Anything reading.broker read.broker := by
  induction h with
  | refl => exact .refl
  | head _ hdispatch _ ih => exact (later_dispatch hdispatch).trans ih

theorem later_refuse (setting : Setting) (broker : Broker) (id : SessionId) (cause : CodecError) :
    Later Anything broker (Socket.refuse setting id cause broker) :=
  later_run setting (.refuse id cause) trivial

theorem later_timeOut (setting : Setting) (broker : Broker) (id : SessionId) :
    Later Anything broker (broker.reject setting id Socket.connectTimeout none).2 :=
  later_run setting (.timeOut id) trivial

theorem later_halt (h : Socket.Halt setting id reading handled flow read) :
    Later Anything reading.broker read.broker := by
  cases h with
  | more _ => exact .refl
  | invalid _ => exact later_refuse setting reading.broker id _
  | close _ hdispatch => exact later_dispatch hdispatch

/-- What the reading half does with an arrival is a sequence of operations. -/
theorem later_step {arrival : Arrival}
    (hstep : socket.step setting broker arrival = (flow, next, after)) :
    Later Anything broker after := by
  cases arrival with
  | message data =>
    by_cases hfits : data.length ≤ socket.codec.maxFrameBytes
    · obtain ⟨frames, read, handled, flow, last, hheard, hhalt⟩ := Socket.exists_heard_halt
        setting socket.id ⟨socket.codec, socket.buffer ++ data, broker⟩
      rw [Socket.step_message hfits hheard hhalt] at hstep
      cases hstep
      exact (later_heard hheard).trans (later_halt hhalt)
    · rw [Socket.step, if_pos (Nat.lt_of_not_le hfits)] at hstep
      cases hstep
      exact .refl
  | ping payload =>
    cases hstep
    exact later_run setting (.answerPing socket.id payload) trivial
  | pong =>
    cases hstep
    exact .refl
  | ended =>
    cases hstep
    exact .refl
  | shutdown =>
    cases hstep
    exact .refl
  | deadline =>
    rw [Socket.step] at hstep
    split at hstep
    · cases hstep
      exact .refl
    · cases hstep
      exact later_timeOut setting broker socket.id

theorem passages_of_later (h : Later allowed broker later) : Passages broker later := by
  induction h with
  | refl => exact .refl
  | step _ hfresh _ ih => exact ih.tail (.performed hfresh)

/-- Serving an arrival is a passage, also where it ends the connection. -/
theorem passages_serve (setting : Setting) (socket : Socket) (broker : Broker)
    (arrival : Arrival) : Passages broker (socket.serve setting broker arrival).2 := by
  rcases hstep : socket.step setting broker arrival with ⟨flow, next, last⟩
  rw [Socket.serve, hstep]
  cases flow with
  | «continue» => exact passages_of_later (later_step hstep)
  | close => exact .single (.ended (.returned rfl hstep))

/-- Whoever is not live has its frames answered with Close, and nothing is written. -/
theorem journal_of_handling {frame : Frame} (h : Acts setting (some id) broker last)
    (hbehind : Acts setting (some id) last (broker.handleFrame setting id frame).2)
    (hremoved : broker.registry.get? id = none) : last.journal = broker.journal := by
  obtain ⟨events, hevents⟩ := extends_of_acts h
  obtain ⟨more, hmore⟩ := extends_of_acts hbehind
  have hnothing : (broker.handleFrame setting id frame).2 = broker := by
    rw [handleFrame, hremoved]
  rw [hnothing, hevents, List.append_assoc, List.self_eq_append_right,
    List.append_eq_nil_iff] at hmore
  rw [hevents, hmore.1, List.append_nil]

/-- A teardown begins behind some operations, where the acts for the client broke off. -/
theorem Ended.exists_brokenOff (h : Ended id broker last) :
    ∃ middle, Later Anything broker middle ∧ BrokenOff id middle last := by
  cases h with
  | asked => exact ⟨broker, .refl, .idle⟩
  | returned _ hstep => exact ⟨last, later_step hstep, .idle⟩
  | panicked hown hbreaks =>
    subst hown
    cases hbreaks with
    | waiting => exact ⟨broker, .refl, .idle⟩
    | timedOut _ => exact ⟨_, later_timeOut _ broker _, .idle⟩
    | reading hheard => exact ⟨_, later_heard hheard, .idle⟩
    | refused hheard _ => exact ⟨_, (later_heard hheard).trans (later_refuse _ _ _ _), .idle⟩
    | handling hheard _ hbefore hbehind =>
      exact ⟨_, later_heard hheard, .acting hbefore (journal_of_handling hbefore hbehind)⟩

/-! ### Sound brokers -/

/-- The books agree, whoever has left is accounted for, and the lists are maps. -/
structure Sound (broker : Broker) : Prop where
  consistent : Consistent broker
  accounted : Accounted broker
  mapped : Mapped broker

theorem sound_empty : Sound {} := ⟨consistent_empty, accounted_empty, mapped_empty⟩

theorem Sound.run (h : Sound broker) (hfresh : operation.Fresh broker) :
    Sound (broker.run setting operation) := by
  have hdeeds := h.consistent.deeds_run setting hfresh
  exact ⟨h.consistent.run hfresh, h.accounted.deeds hdeeds, h.mapped.deeds hdeeds⟩

theorem Reachable.sound (h : Reachable allowed broker) : Sound broker := by
  induction h with
  | start => exact sound_empty
  | step _ hfresh _ ih => exact ih.run hfresh

theorem Sound.of_later (h : Sound broker) (hlater : Later allowed broker later) :
    Sound later ∧ Deeds broker later := by
  induction hlater with
  | refl => exact ⟨h, .refl⟩
  | step _ hfresh _ ih =>
    obtain ⟨hsound, hdeeds⟩ := ih
    exact ⟨hsound.run hfresh, hdeeds.trans (hsound.consistent.deeds_run _ hfresh)⟩

theorem BrokenOff.deeds (h : BrokenOff id broker last) : Deeds broker last := by
  cases h with
  | idle => exact .refl
  | acting hacts _ => exact deeds_of_acts hacts

theorem Consistent.brokenOff (h : Consistent broker) (hbroken : BrokenOff id broker last) :
    Loose id last := by
  cases hbroken with
  | idle => exact h.loose id
  | acting hacts _ => exact (h.loose id).acts hacts

/-- What still holds where a teardown begins. -/
structure Due (id : SessionId) (broker : Broker) : Prop where
  loose : Loose id broker
  accounted : Accounted broker
  mapped : Mapped broker

theorem Sound.ended (h : Sound broker) (hended : Ended id broker last) :
    Due id last ∧ Deeds broker last := by
  obtain ⟨middle, hlater, hbroken⟩ := hended.exists_brokenOff
  obtain ⟨hmiddle, hdeeds⟩ := h.of_later hlater
  have hbehind := hbroken.deeds
  exact ⟨⟨hmiddle.consistent.brokenOff hbroken, hmiddle.accounted.deeds hbehind,
    hmiddle.mapped.deeds hbehind⟩, hdeeds.trans hbehind⟩

/-- A teardown makes the broker sound again. -/
theorem Due.closeSession (h : Due id broker) : Sound (broker.closeSession id) :=
  ⟨h.loose.closeSession, h.accounted.closeSession id, h.mapped.deed (.closed id)⟩

theorem Sound.passage (h : Sound broker) (hpassage : Passage broker after) :
    Sound after ∧ Deeds broker after := by
  cases hpassage with
  | performed hfresh => exact ⟨h.run hfresh, h.consistent.deeds_run _ hfresh⟩
  | ended hended =>
    obtain ⟨hdue, hdeeds⟩ := h.ended hended
    exact ⟨hdue.closeSession, hdeeds.tail (.closed _)⟩

theorem Sound.passages (h : Sound broker) (hpassages : Passages broker later) :
    Sound later ∧ Deeds broker later := by
  induction hpassages with
  | refl => exact ⟨h, .refl⟩
  | tail _ hpassage ih =>
    obtain ⟨hsound, hdeeds⟩ := ih
    obtain ⟨hafter, hmore⟩ := hsound.passage hpassage
    exact ⟨hafter, hdeeds.trans hmore⟩

/-! ### Writes -/

/-- Nothing is written to the session, nor tried to be, from one broker to the other. -/
def Unwritten (id : SessionId) (broker after : Broker) : Prop :=
  ∃ events, after.journal = broker.journal ++ events ∧
    ∀ version frame outcome, .wrote id version frame outcome ∉ events

theorem unwritten_of_journal_eq (h : after.journal = broker.journal) :
    Unwritten id broker after :=
  ⟨[], by rw [h, List.append_nil], by simp⟩

theorem Unwritten.trans (h : Unwritten id broker middle) (h' : Unwritten id middle after) :
    Unwritten id broker after := by
  obtain ⟨events, hevents, hnone⟩ := h
  obtain ⟨more, hmore, hnone'⟩ := h'
  refine ⟨events ++ more, by rw [hmore, hevents, List.append_assoc],
    fun version frame outcome hmem ↦ ?_⟩
  rcases List.mem_append.mp hmem with hmem | hmem
  · exact hnone version frame outcome hmem
  · exact hnone' version frame outcome hmem

theorem unwritten_closeSession (broker : Broker) (id other : SessionId) :
    Unwritten id broker (broker.closeSession other) := by
  cases hlive : broker.registry.get? other with
  | none =>
    rw [closeSession_of_none hlive]
    exact unwritten_of_journal_eq rfl
  | some session =>
    rw [closeSession_of_some hlive]
    exact ⟨_, rfl, by simp⟩

theorem departed_of_change (h : Change setting operation broker after) :
    after.departed = broker.departed := by
  cases h with
  | enrolled _ _ _ _ _ _ _ henrol =>
    obtain ⟨registry, -, rfl⟩ := enrol_eq_ok_iff.mp henrol
    rfl
  | _ => rfl

/-- No operation writes to those who had left before it. -/
theorem Sound.unwritten_run (h : Sound broker) (hleft : id ∈ broker.left)
    (hfresh : operation.Fresh broker) : Unwritten id broker (broker.run setting operation) := by
  obtain ⟨middle, events, hchange, hevents, hcaused, -⟩ :=
    @exists_journal_run setting broker h.consistent operation hfresh
  refine ⟨events, hevents, fun version frame outcome hmem ↦ ?_⟩
  obtain ⟨session, hlive, -⟩ := hcaused _ hmem
  obtain ⟨gone, hgone, rfl⟩ := List.mem_map.mp hleft
  have hnone := (h.consistent.change hchange).departed gone (departed_of_change hchange ▸ hgone)
  rw [hlive] at hnone
  cases hnone

theorem Sound.unwritten_later (h : Sound broker) (hleft : id ∈ broker.left)
    (hlater : Later allowed broker later) : Unwritten id broker later := by
  induction hlater with
  | refl => exact unwritten_of_journal_eq rfl
  | step hbefore hfresh _ ih =>
    obtain ⟨hsound, hdeeds⟩ := h.of_later hbefore
    exact ih.trans (hsound.unwritten_run (mem_left_of_deeds hdeeds hleft) hfresh)

/-- Acts that broke off wrote to their client and to live sessions only. -/
theorem Sound.unwritten_brokenOff (h : Sound broker) (hleft : id ∈ broker.left)
    (hbroken : BrokenOff other broker last) : Unwritten id broker last := by
  have hgone := h.accounted.gone id hleft
  cases hbroken with
  | idle => exact unwritten_of_journal_eq rfl
  | acting hacts hsilent =>
    obtain ⟨events, hevents, huttered⟩ := exists_journal_of_acts hacts
    by_cases hown : other = id
    · subst hown
      exact unwritten_of_journal_eq (hsilent hgone)
    · refine ⟨events, hevents, fun version frame outcome hmem ↦ ?_⟩
      rcases huttered _ hmem with hclient | ⟨-, session, hlive, -⟩
      · exact hown (Option.some.inj hclient)
      · rw [hgone] at hlive
        cases hlive

theorem Sound.unwritten_passage (h : Sound broker) (hleft : id ∈ broker.left)
    (hpassage : Passage broker after) : Unwritten id broker after := by
  cases hpassage with
  | performed hfresh => exact h.unwritten_run hleft hfresh
  | @ended other last hended =>
    obtain ⟨middle, hlater, hbroken⟩ := hended.exists_brokenOff
    obtain ⟨hmiddle, hdeeds⟩ := h.of_later hlater
    have hbehind := hmiddle.unwritten_brokenOff (mem_left_of_deeds hdeeds hleft) hbroken
    exact ((h.unwritten_later hleft hlater).trans hbehind).trans (unwritten_closeSession _ _ _)

theorem Sound.unwritten_passages (h : Sound broker) (hleft : id ∈ broker.left)
    (hpassages : Passages broker later) : Unwritten id broker later := by
  induction hpassages with
  | refl => exact unwritten_of_journal_eq rfl
  | tail hbefore hpassage ih =>
    obtain ⟨hsound, hdeeds⟩ := h.passages hbefore
    exact ih.trans (hsound.unwritten_passage (mem_left_of_deeds hdeeds hleft) hpassage)

/-! ### One teardown -/

/-- Of all other sessions the books, the records and the connections are as before. -/
structure Spared (id : SessionId) (before after : Broker) : Prop where
  live : ∀ other, other ≠ id → after.registry.get? other = before.registry.get? other
  records : ∀ other, other ≠ id → after.session? other = before.session? other
  listed : ∀ username other, other ≠ id →
    (after.registry.Listed username other ↔ before.registry.Listed username other)
  entries : ∀ key other subscription, other ≠ id →
    ((key, ⟨other, subscription⟩) ∈ after.table.entries ↔
      (key, ⟨other, subscription⟩) ∈ before.table.entries)
  sinks : ∀ other, other ≠ id → after.sink other = before.sink other
  closing : after.closing = before.closing
  nextMessageId : after.nextMessageId = before.nextMessageId

/-- A live session leaves with no subscriptions, told to stop, and its connection is closed, now and
never again. -/
structure Discharged (session : Session) (before after : Broker) : Prop where
  departed : after.departed =
    before.departed ++ [{ session with subscriptions := [], cancelled := true }]
  record : after.session? session.id = some { session with subscriptions := [], cancelled := true }
  journal : after.journal = before.journal ++ [.closed session.id (before.sink session.id).close.1]
  sink : after.sink session.id = (before.sink session.id).close.2
  once : ∀ later, Passages after later → later.attempts session.id = 1

/-- All that a teardown does. -/
structure Teardown (id : SessionId) (before after : Broker) : Prop where
  absent : after.Absent id
  spared : Spared id before after
  /-- No row of a user or a destination is left empty. -/
  mapped : Mapped after
  unregistered : before.registry.get? id = none → after = before
  registered : ∀ session, before.registry.get? id = some session → Discharged session before after

/-- The session has left for good: whatever happens later, one attempt is made to close its
connection, and nothing is written to it. -/
structure Finished (broker : Broker) (id : SessionId) : Prop where
  absent : ∀ later, Passages broker later → later.Absent id
  once : ∀ later, Passages broker later → later.attempts id + later.closing.count id = 1
  swept : ∀ later, Passages broker later → later.closeLeft.attempts id = 1
  unwritten : ∀ later, Passages broker later → Unwritten id broker later

theorem Sound.finished (h : Sound broker) (hleft : id ∈ broker.left) : broker.Finished id := by
  have hstays : ∀ later, Passages broker later → Sound later ∧ id ∈ later.left := by
    intro later hpassages
    obtain ⟨hsound, hdeeds⟩ := h.passages hpassages
    exact ⟨hsound, mem_left_of_deeds hdeeds hleft⟩
  refine ⟨fun later hpassages ↦ ?_, fun later hpassages ↦ ?_, fun later hpassages ↦ ?_,
    fun later hpassages ↦ h.unwritten_passages hleft hpassages⟩
  · obtain ⟨hsound, hmem⟩ := hstays later hpassages
    exact hsound.consistent.absent (hsound.accounted.gone id hmem)
  · obtain ⟨hsound, hmem⟩ := hstays later hpassages
    exact hsound.accounted.attempts_of_mem hmem
  · obtain ⟨hsound, hmem⟩ := hstays later hpassages
    rw [attempts_closeLeft]
    exact hsound.accounted.attempts_of_mem hmem

/-- Once the attempt was made, it stays the only one. -/
theorem Sound.attempts_eq_one (h : Sound broker) (hleft : id ∈ broker.left)
    (hwaits : id ∉ broker.closing) (hpassages : Passages broker later) :
    later.attempts id = 1 := by
  have hmade := h.accounted.attempts_of_mem hleft
  rw [List.count_eq_zero_of_not_mem hwaits, Nat.add_zero] at hmade
  have hleast : broker.attempts id ≤ later.attempts id :=
    attempts_le_of_deeds (h.passages hpassages).2
  have hmost := (h.finished hleft).once later hpassages
  omega

theorem closing_closeSession (broker : Broker) (id : SessionId) :
    (broker.closeSession id).closing = broker.closing := by
  cases hlive : broker.registry.get? id with
  | none => rw [closeSession_of_none hlive]
  | some session =>
    rw [closeSession_of_some hlive]
    rfl

theorem spared_closeSession (hlive : broker.registry.get? session.id = some session) :
    Spared session.id broker (broker.closeSession session.id) := by
  obtain ⟨hregistry, -, hdeparted⟩ := books_closeSession broker session.id
  constructor
  · intro other hne
    rw [get?_closeSession, if_neg hne.symm]
  · intro other hne
    rw [session?, hregistry, hdeparted]
    exact session?_detach_of_ne hne.symm
  · intro username other hne
    rw [hregistry, registry_detach, Registry.listed_remove hlive]
    exact and_iff_left fun hown ↦ hne hown.2
  · intro key other subscription hne
    rw [closeSession_of_some hlive]
    exact SubscriptionTable.mem_entries_removeSession.trans (and_iff_left hne)
  · intro other hne
    rw [closeSession_of_some hlive]
    exact sink_setSink.trans (if_neg hne.symm)
  · exact closing_closeSession broker session.id
  · rw [closeSession_of_some hlive]
    rfl

theorem session?_of_departed {found : Session} {departed : List Session}
    (hremoved : broker.registry.get? id = none) (hdeparted : broker.departed = departed ++ [found])
    (hid : found.id = id) (hothers : ∀ session ∈ departed, session.id ≠ id) :
    broker.session? id = some found := by
  have hnone : departed.find? (fun session ↦ session.id == id) = none :=
    List.find?_eq_none.mpr fun session hmem ↦ by simpa using hothers session hmem
  rw [session?_eq_or, hremoved, Option.none_or, hdeparted, List.find?_append, hnone,
    Option.none_or, List.find?_cons_of_pos (by simpa using hid)]

theorem Due.discharged (h : Due session.id broker)
    (hlive : broker.registry.get? session.id = some session) :
    Discharged session broker (broker.closeSession session.id) := by
  have hclosed := closeSession_of_some hlive
  have hdeparted : (broker.closeSession session.id).departed =
      broker.departed ++ [{ session with subscriptions := [], cancelled := true }] :=
    congrArg Broker.departed hclosed
  have hremoved : (broker.closeSession session.id).registry.get? session.id = none := by
    rw [get?_closeSession, if_pos rfl]
  refine ⟨hdeparted, session?_of_departed hremoved hdeparted rfl ?_,
    congrArg Broker.journal hclosed, ?_, fun later hpassages ↦ ?_⟩
  · intro departed hmem hid
    have hnone := h.loose.departed departed hmem
    rw [hid, hlive] at hnone
    cases hnone
  · rw [hclosed]
    exact sink_setSink.trans (if_pos rfl)
  · have hleft : session.id ∈ (broker.closeSession session.id).left := by
      rw [left, hdeparted]
      simp
    have hwaits : session.id ∉ (broker.closeSession session.id).closing := by
      rw [closing_closeSession]
      exact h.accounted.not_mem_closing (hlive ▸ Option.some_ne_none session)
    exact h.closeSession.attempts_eq_one hleft hwaits hpassages

/-- Where a teardown is due, it does all that it should. -/
theorem Due.teardown (h : Due id broker) : Teardown id broker (broker.closeSession id) := by
  have hsound := h.closeSession
  have habsent := hsound.consistent.absent ((get?_closeSession broker id).trans (if_pos rfl))
  cases hlive : broker.registry.get? id with
  | none =>
    have hnothing := closeSession_of_none hlive
    refine ⟨habsent, ?_, hsound.mapped, fun _ ↦ hnothing, fun session hsession ↦ ?_⟩
    · rw [hnothing]
      exact ⟨fun _ _ ↦ rfl, fun _ _ ↦ rfl, fun _ _ _ ↦ Iff.rfl, fun _ _ _ _ ↦ Iff.rfl,
        fun _ _ ↦ rfl, rfl, rfl⟩
    · rw [hlive] at hsession
      cases hsession
  | some session =>
    obtain rfl := Registry.id_of_get? hlive
    refine ⟨habsent, spared_closeSession hlive, hsound.mapped, fun hremoved ↦ ?_,
      fun found hfound ↦ ?_⟩
    · rw [hlive] at hremoved
      cases hremoved
    · obtain rfl : session = found := Option.some.inj (hlive.symm.trans hfound)
      exact h.discharged hlive

/-! ### The end of all sessions -/

/-- Nobody is left, and those who were there are finished. -/
structure Emptied (before after : Broker) : Prop where
  sessions : after.registry.sessions = []
  users : after.registry.users = []
  table : after.table.destinations = []
  discharged : ∀ session, before.registry.get? session.id = some session →
    { session with subscriptions := [], cancelled := true } ∈ after.departed ∧
      ∀ later, Passages after later → later.attempts session.id = 1
  finished : ∀ id, before.OnRecord id → after.Finished id

theorem passages_closeAll (broker : Broker) : Passages broker broker.closeAll.2 :=
  List.foldlRecOn _ Broker.closeSession .refl fun _ hbefore _ _ ↦ hbefore.tail (.ended .asked)

theorem closing_closeAll (broker : Broker) : broker.closeAll.2.closing = broker.closing :=
  List.foldlRecOn (motive := fun after ↦ after.closing = broker.closing) _ Broker.closeSession rfl
    fun before hbefore id _ ↦ (closing_closeSession before id).trans hbefore

theorem OnRecord.closeAll (h : broker.OnRecord id) : broker.closeAll.2.OnRecord id :=
  List.foldlRecOn (motive := (OnRecord · id)) _ Broker.closeSession h
    fun _ hbefore other _ ↦ OnRecord.closeSession hbefore other

theorem mem_ids_of_get? (hlive : broker.registry.get? session.id = some session) :
    session.id ∈ broker.registry.sessions.map Session.id :=
  List.mem_map_of_mem (List.mem_of_find?_eq_some hlive)

theorem get?_closeAll (broker : Broker) (id : SessionId) :
    broker.closeAll.2.registry.get? id = none := by
  refine (get?_foldl (fun broker id _ ↦ get?_closeSession broker id) _).trans ?_
  split
  · rfl
  · rename_i hnot
    cases hlive : broker.registry.get? id with
    | none => rfl
    | some session =>
      obtain rfl := Registry.id_of_get? hlive
      exact absurd (mem_ids_of_get? hlive) hnot

/-- Whoever is live among those who are closed is on record as one who has left. -/
theorem mem_departed_closeSession_foldl {ids : List SessionId} (hid : session.id ∈ ids)
    (hlive : broker.registry.get? session.id = some session) :
    { session with subscriptions := [], cancelled := true } ∈
      (ids.foldl Broker.closeSession broker).departed := by
  induction ids generalizing broker with
  | nil => cases hid
  | cons id ids ih =>
    by_cases hown : id = session.id
    · subst hown
      refine (departed_prefix_of_deeds (deeds_closeSession_foldl ids)).subset ?_
      rw [closeSession_of_some hlive]
      exact List.mem_append_right _ List.mem_cons_self
    · refine ih ((List.mem_cons.mp hid).resolve_left fun heq ↦ hown heq.symm) ?_
      rw [get?_closeSession, if_neg hown, hlive]

/-- Without live sessions the rows are empty, and then there are none. -/
theorem Sound.eq_nil (h : Sound broker) (hnobody : ∀ id, broker.registry.get? id = none) :
    broker.registry.users = [] ∧ broker.table.destinations = [] := by
  constructor
  · refine h.mapped.registry.users.eq_nil fun username id hmem ↦ ?_
    exact (h.consistent.absent (hnobody id)).unlisted username (Rows.mem_pairs_iff.mp hmem)
  · refine h.mapped.table.eq_nil fun key subscriber hmem ↦ ?_
    exact (h.consistent.absent (hnobody subscriber.session)).withdrawn key subscriber.subscription
      hmem

theorem Sound.emptied (h : Sound broker) : Emptied broker broker.closeAll.2 := by
  obtain ⟨hsound, -⟩ := h.passages (passages_closeAll broker)
  have hnobody := get?_closeAll broker
  obtain ⟨husers, htable⟩ := hsound.eq_nil hnobody
  have hleft : ∀ {id : SessionId}, broker.OnRecord id → id ∈ broker.closeAll.2.left :=
    fun hrecord ↦ hrecord.closeAll.mem_left (hnobody _)
  refine ⟨Registry.sessions_eq_nil hnobody, husers, htable, fun session hlive ↦ ?_,
    fun id hrecord ↦ hsound.finished (hleft hrecord)⟩
  have hrecord : broker.OnRecord session.id := by
    rw [OnRecord, session?_of_get? hlive]
    exact Option.some_ne_none session
  have hwaits : session.id ∉ broker.closeAll.2.closing := by
    rw [closing_closeAll]
    exact h.accounted.not_mem_closing (hlive ▸ Option.some_ne_none session)
  exact ⟨mem_departed_closeSession_foldl (mem_ids_of_get? hlive) hlive,
    fun later hlater ↦ hsound.attempts_eq_one (hleft hrecord) hwaits hlater⟩

/-! ### Every teardown -/

/-- Sessions are torn down completely, whoever begins it, one by one and all at once. -/
structure Disposes (broker : Broker) : Prop where
  teardown : ∀ id last, Ended id broker last → Teardown id last (last.closeSession id)
  finished : ∀ id last, Ended id broker last → last.OnRecord id →
    (last.closeSession id).Finished id
  /-- So are those who were taken out before, also by a delivery that failed. -/
  departed : ∀ session ∈ broker.departed, session.subscriptions = [] ∧ session.cancelled = true ∧
    broker.Finished session.id
  emptied : Emptied broker broker.closeAll.2

/-- Whatever was asked of the broker, wherever reading halves panicked, and whatever the sinks did,
sessions are torn down completely, once, and nothing else is touched. -/
theorem disposes_of_passages (h : Reachable allowed origin) (hpassages : Passages origin broker) :
    Disposes broker := by
  obtain ⟨hsound, -⟩ := h.sound.passages hpassages
  refine ⟨fun id last hended ↦ ?_, fun id last hended hrecord ↦ ?_, fun session hmem ↦ ?_,
    hsound.emptied⟩
  · exact (hsound.ended hended).1.teardown
  · obtain ⟨hdue, -⟩ := hsound.ended hended
    refine hdue.closeSession.finished ((hrecord.closeSession id).mem_left ?_)
    exact (get?_closeSession last id).trans (if_pos rfl)
  · obtain ⟨hempty, hcancelled⟩ := hsound.accounted.dismissed session hmem
    exact ⟨hempty, hcancelled, hsound.finished (List.mem_map_of_mem hmem)⟩

/-- One of two clients of a user has left. What the other subscribed to stays, until its reading
half panics. -/
theorem disposes_of_passages_prepared :
    let broker := (Socket.serve Forgery.setting (.fresh Forgery.sender 0) Forgery.prepared .ended).2
    Reachable FromWire Forgery.prepared ∧ Passages Forgery.prepared broker ∧ Disposes broker ∧
      broker.registry.users = [("u", [Forgery.receiver])] ∧
      broker.table.destinations = [("/topic/x", [⟨Forgery.receiver, "0"⟩])] ∧
      broker.attempts Forgery.sender = 1 ∧
      Ended Forgery.receiver broker broker ∧
      (broker.closeSession Forgery.receiver).registry.users = [] ∧
      (broker.closeSession Forgery.receiver).table.destinations = [] := by
  have hpassages := passages_serve Forgery.setting (.fresh Forgery.sender 0) Forgery.prepared .ended
  have hended := @Ended.panicked Forgery.receiver
    (Socket.serve Forgery.setting (.fresh Forgery.sender 0) Forgery.prepared .ended).2
    Forgery.setting Farewell.socket [] _ rfl .waiting
  exact ⟨Forgery.reachable_prepared, hpassages,
    disposes_of_passages Forgery.reachable_prepared hpassages, by decide, by decide, by decide,
    hended, by decide, by decide⟩

end StompBroker.Broker
