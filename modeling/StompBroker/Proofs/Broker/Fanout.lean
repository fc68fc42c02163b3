import StompBroker.Proofs.Broker.Numbering
import StompBroker.Proofs.Broker.Subscriptions

/-!
# One write for each subscription

A message that is delivered to subscribers is written once to each of them, whatever becomes of the
other writes, and each `Attempt` takes the next message id. The sessions with a failed attempt are
taken out, and nobody else is (`FannedOut`). That is shown for one attempt
(`exists_attempted_deliverTo`), for any number of them after each other, and then for the sessions
that are taken out behind them.

What is published to a destination is delivered to the entries that the table has under it
(`Published`): so it is with the server's own messages and with those that clients send to topics
and queues (`fansOut_of_reachable`). Its ids occur again only 2⁶⁴ messages later, when the counter
has come round, and whether the receipt for a message arrives makes no difference to anybody
(`ids_recur_and_sender_stays`).
-/

set_option autoImplicit false

namespace StompBroker

/-- What is delivered, and the destination on its label. -/
structure Message where
  destination : String
  contentType : String
  body : Bytes

/-- A frame delivers a message to a subscription, under a number. -/
structure Frame.Delivers (frame : Frame) (message : Message) (subscription : String)
    (number : UInt64) : Prop where
  command : frame.command = .message
  destination : frame.header? Header.destination = some message.destination
  subscription : frame.header? Header.subscription = some subscription
  messageId : frame.header? Header.messageId = some (toString number)
  contentType : frame.header? Header.contentType = some message.contentType
  contentLength : frame.header? Header.contentLength = some (toString message.body.length)
  body : frame.body = message.body

/-- One attempt to deliver a message to a subscription. -/
structure Attempt where
  session : Session
  subscription : String
  number : UInt64
  outcome : WriteOutcome

namespace Attempt

def subscriber (attempt : Attempt) : Subscriber := ⟨attempt.session.id, attempt.subscription⟩

/-- The frame was written. -/
def succeeded (attempt : Attempt) : Bool := attempt.outcome = .written

def frame (message : Message) (attempt : Attempt) : Frame :=
  .message message.destination attempt.subscription (toString attempt.number) message.contentType
    message.body

def event (message : Message) (attempt : Attempt) : Event :=
  .wrote attempt.session.id attempt.session.version (attempt.frame message) attempt.outcome

theorem delivers (message : Message) (attempt : Attempt) :
    (attempt.frame message).Delivers message attempt.subscription attempt.number :=
  ⟨rfl, rfl, rfl, rfl, rfl, rfl, rfl⟩

end Attempt

namespace Broker

variable {setting : Setting} {operation : Operation} {broker after : Broker} {message : Message}
  {attempts : List Attempt} {id other : SessionId}

/-! ### Attempts -/

/-- An attempt to write to the session failed. -/
def Lost (attempts : List Attempt) (id : SessionId) : Prop :=
  ∃ attempt ∈ attempts, attempt.session.id = id ∧ attempt.succeeded = false

/-- What attempts make of a delivery. -/
structure Attempted (message : Message) (attempts : List Attempt) (fanout after : Fanout) :
    Prop where
  registry : after.broker.registry = fanout.broker.registry
  numbers : attempts.map Attempt.number = numbersFrom fanout.broker.nextMessageId attempts.length
  counter : after.broker.nextMessageId = fanout.broker.nextMessageId + .ofNat attempts.length
  journal : after.broker.journal = fanout.broker.journal ++ attempts.map (Attempt.event message)
  delivered : after.delivered = fanout.delivered + attempts.countP Attempt.succeeded
  failed : after.failed =
    fanout.failed ++ (attempts.filter fun attempt ↦ !attempt.succeeded).map (·.session.id)

theorem Attempted.nil (fanout : Fanout) : Attempted message [] fanout fanout := by
  constructor <;> simp [numbersFrom]

theorem Attempted.append {fanout middle after : Fanout} {more : List Attempt}
    (h : Attempted message attempts fanout middle) (h' : Attempted message more middle after) :
    Attempted message (attempts ++ more) fanout after := by
  constructor
  · rw [h'.registry, h.registry]
  · rw [List.map_append, h.numbers, h'.numbers, h.counter, List.length_append, numbersFrom_add]
  · rw [h'.counter, h.counter, List.length_append, UInt64.ofNat_add, UInt64.add_assoc]
  · rw [h'.journal, h.journal, List.map_append, List.append_assoc]
  · rw [h'.delivered, h.delivered, List.countP_append, Nat.add_assoc]
  · rw [h'.failed, h.failed, List.filter_append, List.map_append, List.append_assoc]

theorem journal_write {version : Version} {frame : Frame} {freeAt deadline : Nat} :
    (broker.write id version frame freeAt deadline).2.2.journal =
      broker.journal ++
        [.wrote id version frame (broker.write id version frame freeAt deadline).1] :=
  rfl

/-- Each target is attempted once, under the next number. -/
theorem exists_attempted_deliverTo (setting : Setting) (message : Message) (fanout : Fanout)
    (target : Session × String) :
    ∃ attempt : Attempt, (attempt.session, attempt.subscription) = target ∧
      Attempted message [attempt] fanout
        (deliverTo setting message.destination message.contentType message.body fanout target) := by
  obtain ⟨session, subscription⟩ := target
  unfold deliverTo
  simp only
  split
  · rename_i houtcome
    refine ⟨⟨session, subscription, fanout.broker.nextMessageId, .written⟩, rfl, rfl,
      (numbersFrom_one _).symm, rfl, ?_, rfl, (List.append_nil _).symm⟩
    rw [journal_write, houtcome]
    rfl
  · rename_i reason houtcome
    refine ⟨⟨session, subscription, fanout.broker.nextMessageId, .refused reason⟩, rfl, rfl,
      (numbersFrom_one _).symm, rfl, ?_, rfl, rfl⟩
    rw [journal_write, houtcome]
    rfl
  · rename_i houtcome
    refine ⟨⟨session, subscription, fanout.broker.nextMessageId, .timedOut⟩, rfl, rfl,
      (numbersFrom_one _).symm, rfl, ?_, rfl, rfl⟩
    rw [journal_write, houtcome]
    rfl

/-- All targets are attempted in their order. -/
theorem exists_attempted_foldl (setting : Setting) (message : Message)
    (targets : List (Session × String)) (fanout : Fanout) :
    ∃ attempts : List Attempt,
      attempts.map (fun attempt ↦ (attempt.session, attempt.subscription)) = targets ∧
        Attempted message attempts fanout
          (targets.foldl
            (deliverTo setting message.destination message.contentType message.body) fanout) := by
  induction targets generalizing fanout with
  | nil => exact ⟨[], rfl, .nil fanout⟩
  | cons target targets ih =>
    obtain ⟨attempt, htarget, hfirst⟩ := exists_attempted_deliverTo setting message fanout target
    obtain ⟨attempts, htargets, hothers⟩ := ih
      (deliverTo setting message.destination message.contentType message.body fanout target)
    refine ⟨attempt :: attempts, ?_, hfirst.append hothers⟩
    rw [List.map_cons, htarget, htargets]

/-! ### Sessions that are taken out -/

theorem get?_retire :
    (broker.retire id).registry.get? other =
      if id = other then none else broker.registry.get? other := by
  rw [← get?_detach]
  unfold retire
  rcases broker.detach id with ⟨live, detached⟩
  cases live with
  | false => rfl
  | true => rfl

/-- Whatever takes out one session after the other takes out all of them. -/
theorem get?_foldl {step : Broker → SessionId → Broker}
    (hstep : ∀ broker id other, (step broker id).registry.get? other =
      if id = other then none else broker.registry.get? other) (ids : List SessionId) :
    (ids.foldl step broker).registry.get? other =
      if other ∈ ids then none else broker.registry.get? other := by
  induction ids generalizing broker with
  | nil => simp
  | cons id ids ih =>
    rw [List.foldl_cons, ih, hstep]
    by_cases hids : other ∈ ids
    · rw [if_pos hids, if_pos (List.mem_cons_of_mem id hids)]
    · by_cases hid : id = other
      · rw [if_neg hids, if_pos hid, hid, if_pos List.mem_cons_self]
      · have hne : other ≠ id := fun heq ↦ hid heq.symm
        rw [if_neg hids, if_neg hid, if_neg (by simp [hids, hne])]

theorem get?_retire_foldl (ids : List SessionId) :
    (ids.foldl retire broker).registry.get? other =
      if other ∈ ids then none else broker.registry.get? other :=
  get?_foldl (fun _ _ _ ↦ get?_retire) ids

/-- Taking sessions out writes nothing and counts nothing. -/
theorem silent_retire_foldl (broker : Broker) (ids : List SessionId) :
    (ids.foldl retire broker).journal = broker.journal ∧
      (ids.foldl retire broker).nextMessageId = broker.nextMessageId := by
  induction ids generalizing broker with
  | nil => exact ⟨rfl, rfl⟩
  | cons id ids ih =>
    have hretire : (broker.retire id).journal = broker.journal ∧
        (broker.retire id).nextMessageId = broker.nextMessageId := by
      unfold retire
      cases hget : broker.registry.get? id with
      | none =>
        rw [detach_of_none hget]
        exact ⟨rfl, rfl⟩
      | some session =>
        rw [detach_of_some hget]
        exact ⟨rfl, rfl⟩
    rw [List.foldl_cons, ← hretire.1, ← hretire.2]
    exact ih (broker.retire id)

theorem mem_failed_iff :
    id ∈ (attempts.filter fun attempt ↦ !attempt.succeeded).map (·.session.id) ↔
      Lost attempts id := by
  simp only [List.mem_map, List.mem_filter, Bool.not_eq_true', Lost]
  constructor
  · rintro ⟨attempt, ⟨hmem, hfailed⟩, hid⟩
    exact ⟨attempt, hmem, hid, hfailed⟩
  · rintro ⟨attempt, hmem, hid, hfailed⟩
    exact ⟨attempt, ⟨hmem, hfailed⟩, hid⟩

/-- The sessions that attempts failed to reach are not live afterwards, and all others are what they
were. -/
structure Culled (broker after : Broker) (attempts : List Attempt) : Prop where
  gone : ∀ id, Lost attempts id → after.registry.get? id = none
  kept : ∀ id, ¬Lost attempts id → after.registry.get? id = broker.registry.get? id

/-- With its session goes the row of a user that it is listed in. -/
theorem Culled.listed_iff (h : Culled broker after attempts) (hconsistent : Consistent broker)
    (hafter : Consistent after) {username : String} :
    after.registry.Listed username id ↔
      broker.registry.Listed username id ∧ ¬Lost attempts id := by
  rw [hafter.listed, hconsistent.listed]
  by_cases hlost : Lost attempts id
  · simp [h.gone id hlost, hlost]
  · simp [h.kept id hlost, hlost]

/-- With its session goes an entry of the table. -/
theorem Culled.mem_entries_iff (h : Culled broker after attempts) (hconsistent : Consistent broker)
    (hafter : Consistent after) {key : String} {subscriber : Subscriber} :
    (key, subscriber) ∈ after.table.entries ↔
      (key, subscriber) ∈ broker.table.entries ∧ ¬Lost attempts subscriber.session := by
  obtain ⟨id, subscription⟩ := subscriber
  rw [hafter.entries, hconsistent.entries]
  by_cases hlost : Lost attempts id
  · simp [h.gone id hlost, hlost]
  · simp [h.kept id hlost, hlost]

/-! ### Deliveries -/

/-- A message was delivered to subscribers, and then the rest of the journal was written. -/
structure FannedOut (broker after : Broker) (message : Message) (subscribers : List Subscriber)
    (attempts : List Attempt) (rest : List Event) : Prop extends Culled broker after attempts where
  recipients : attempts.map Attempt.subscriber = subscribers
  live : ∀ attempt ∈ attempts, broker.registry.get? attempt.session.id = some attempt.session
  delivers : ∀ attempt ∈ attempts,
    (attempt.frame message).Delivers message attempt.subscription attempt.number
  numbers : attempts.map Attempt.number = numbersFrom broker.nextMessageId attempts.length
  counter : after.nextMessageId = broker.nextMessageId + .ofNat attempts.length
  journal : after.journal = broker.journal ++ (attempts.map (Attempt.event message) ++ rest)
  /-- There are no messages in the rest. -/
  quiet : rest.filterMap Event.message? = []
  listed : ∀ username id, after.registry.Listed username id ↔
    broker.registry.Listed username id ∧ ¬Lost attempts id
  entries : ∀ key subscriber, (key, subscriber) ∈ after.table.entries ↔
    (key, subscriber) ∈ broker.table.entries ∧ ¬Lost attempts subscriber.session

theorem live_of_mem_targets {registry : Registry} {subscribers : List Subscriber}
    {target : Session × String} (h : target ∈ targets registry subscribers) :
    registry.get? target.1.id = some target.1 := by
  obtain ⟨subscriber, -, htarget⟩ := List.mem_filterMap.mp h
  obtain ⟨session, hlive, rfl⟩ := Option.map_eq_some_iff.mp htarget
  rw [← Registry.id_of_get? hlive] at hlive
  exact hlive

/-- Subscribers whose sessions are live are targets, each of them. -/
theorem map_targets {registry : Registry} {subscribers : List Subscriber}
    (h : ∀ subscriber ∈ subscribers, ∃ session, registry.get? subscriber.session = some session) :
    (targets registry subscribers).map (fun target ↦ ⟨target.1.id, target.2⟩) = subscribers := by
  induction subscribers with
  | nil => rfl
  | cons subscriber subscribers ih =>
    obtain ⟨session, hlive⟩ := h subscriber List.mem_cons_self
    have htarget : (registry.get? subscriber.session).map
        (fun session ↦ (session, subscriber.subscription)) =
          some (session, subscriber.subscription) := by rw [hlive, Option.map_some]
    have hcons : targets registry (subscriber :: subscribers) =
        (session, subscriber.subscription) :: targets registry subscribers :=
      List.filterMap_cons_some htarget
    rw [hcons, List.map_cons, ih fun other hmem ↦ h other (List.mem_cons_of_mem _ hmem),
      Registry.id_of_get? hlive]

/-- A delivery attempts one write for each of its subscribers, and counts those that succeed. -/
theorem exists_fannedOut_deliver {subscribers : List Subscriber} (hconsistent : Consistent broker)
    (hlive : ∀ subscriber ∈ subscribers, ∃ session,
      broker.registry.get? subscriber.session = some session)
    (hafter : Consistent (broker.deliver setting subscribers message.destination
      message.contentType message.body).2) :
    ∃ attempts, FannedOut broker (broker.deliver setting subscribers message.destination
        message.contentType message.body).2 message subscribers attempts [] ∧
      (broker.deliver setting subscribers message.destination message.contentType message.body).1 =
        attempts.countP Attempt.succeeded := by
  unfold deliver at hafter ⊢
  simp only at hafter ⊢
  obtain ⟨attempts, htargets, hattempted⟩ := exists_attempted_foldl setting message
    (targets broker.registry subscribers) { broker := broker }
  generalize (targets broker.registry subscribers).foldl
    (deliverTo setting message.destination message.contentType message.body)
    { broker := broker } = fanout at hafter hattempted ⊢
  have hfailed : ∀ id, id ∈ fanout.failed ↔ Lost attempts id := fun id ↦ by
    rw [hattempted.failed, List.nil_append, mem_failed_iff]
  have hculled : Culled broker (fanout.failed.foldl retire fanout.broker) attempts := by
    refine ⟨fun id hlost ↦ ?_, fun id hlost ↦ ?_⟩
    · rw [get?_retire_foldl, if_pos ((hfailed id).mpr hlost)]
    · rw [get?_retire_foldl, if_neg (mt (hfailed id).mp hlost), hattempted.registry]
  obtain ⟨hjournal, hcounter⟩ := silent_retire_foldl fanout.broker fanout.failed
  refine ⟨attempts, ⟨hculled, ?_, fun attempt hmem ↦ ?_, fun attempt _ ↦ attempt.delivers message,
    hattempted.numbers, hcounter.trans hattempted.counter, ?_, rfl,
    fun _ _ ↦ hculled.listed_iff hconsistent hafter,
    fun _ _ ↦ hculled.mem_entries_iff hconsistent hafter⟩, ?_⟩
  · rw [← map_targets hlive, ← htargets, List.map_map]
    rfl
  · have htarget : (attempt.session, attempt.subscription) ∈
        targets broker.registry subscribers := by
      rw [← htargets]
      exact List.mem_map_of_mem hmem
    exact live_of_mem_targets htarget
  · rw [hjournal, hattempted.journal, List.append_nil]
  · rw [hattempted.delivered, Nat.zero_add]

/-- A receipt behind a delivery belongs to the rest. -/
theorem FannedOut.receipt {subscribers : List Subscriber}
    (h : FannedOut broker after message subscribers attempts []) (setting : Setting)
    (session : Session) (frame : Frame) :
    ∃ rest, FannedOut broker (after.sendReceipt setting session frame) message subscribers attempts
      rest := by
  unfold sendReceipt
  cases frame.header? Header.receipt with
  | none => exact ⟨[], h⟩
  | some receipt =>
    obtain ⟨event, hjournal, hevent⟩ : ∃ event,
        (after.send setting session (.receipt receipt)).2.journal = after.journal ++ [event] ∧
          event.message? = none := ⟨_, rfl, rfl⟩
    refine ⟨[event], ⟨h.gone, h.kept⟩, h.recipients, h.live, h.delivers, h.numbers, h.counter, ?_,
      ?_, h.listed, h.entries⟩
    · rw [hjournal, h.journal, List.append_nil, List.append_assoc]
    · rw [List.filterMap_cons_none hevent, List.filterMap_nil]

/-! ### What is published -/

/-- A message was delivered to all entries under its destination. -/
structure Published (broker after : Broker) (message : Message) (attempts : List Attempt)
    (rest : List Event) : Prop extends FannedOut broker after message
      (broker.table.subscribers message.destination) attempts rest where
  once : (attempts.map Attempt.subscriber).Nodup
  subscribed_iff : ∀ subscriber, subscriber ∈ attempts.map Attempt.subscriber ↔
    (message.destination, subscriber) ∈ broker.table.entries
  /-- The ids of the message are different from each other, if they are no more than the counter
  has. -/
  distinct : (attempts.map Attempt.number).Nodup ↔ attempts.length ≤ UInt64.size
  /-- They are never used again, as long as there are no more than that in the whole run. -/
  unique : ∀ allowed later, Later allowed after later →
    Extends after later ∧ (later.messageIds.Nodup ↔ later.messageIds.length ≤ UInt64.size)
  /-- After that, every message has the id of the one so many messages before it. -/
  recurring : ∀ allowed later, Later allowed after later →
    ∀ i < later.messageIds.length, ∀ j < later.messageIds.length,
      later.messageIds[i]? = later.messageIds[j]? ↔ i % UInt64.size = j % UInt64.size

theorem exists_fannedOut_publish (h : Consistent broker) (setting : Setting) (message : Message) :
    ∃ attempts, FannedOut broker
        (broker.publish setting message.destination message.contentType message.body).2 message
        (broker.table.subscribers message.destination) attempts [] ∧
      (broker.publish setting message.destination message.contentType message.body).1 =
        attempts.countP Attempt.succeeded := by
  have houtputs : Outputs setting .closeAll broker broker
      (broker.publish setting message.destination message.contentType message.body).2 :=
    outputs_publish _ _ _
  refine exists_fannedOut_deliver h (fun subscriber hmem ↦ ?_) (h.outputs houtputs)
  have hentry := SubscriptionTable.mem_entries_of_mem_subscribers hmem
  obtain ⟨session, hlive, -⟩ := (h.entries _ _ _).mp hentry
  exact ⟨session, hlive⟩

theorem FannedOut.published (hproper : Proper broker) (hnumbered : Numbered after)
    {rest : List Event}
    (h : FannedOut broker after message (broker.table.subscribers message.destination) attempts
      rest) : Published broker after message attempts rest := by
  constructor
  case toFannedOut => exact h
  case once =>
    rw [h.recipients]
    exact hproper.table.nodup_lookup
  case subscribed_iff =>
    intro subscriber
    rw [h.recipients]
    exact SubscriptionTable.mem_subscribers_iff hproper.table
  case distinct =>
    rw [h.numbers]
    exact nodup_numbersFrom_iff
  case unique =>
    exact fun _ _ hlater ↦ ⟨extends_of_later hlater, (hnumbered.later hlater).nodup_messageIds_iff⟩
  case recurring =>
    exact fun _ _ hlater _ hi _ hj ↦ (hnumbered.later hlater).getElem?_messageIds_eq_iff hi hj

/-! ### Messages of clients -/

/-- Nobody subscribes under what is not a key. -/
theorem subscribers_of_not_isKey (hconsistent : Consistent broker) (hproper : Proper broker)
    {destination : String} (h : ¬Destination.IsKey destination) :
    broker.table.subscribers destination = [] := by
  refine List.eq_nil_iff_forall_not_mem.mpr fun subscriber hmem ↦ h ?_
  have hentry := SubscriptionTable.mem_entries_of_mem_subscribers hmem
  obtain ⟨row, hrow, rfl, -⟩ := Rows.mem_pairs_iff.mp hentry
  exact isKey_of_mem_destinations hconsistent hproper hrow

/-- What a client sends to a topic or a queue is published there. -/
theorem handleSend_of_isShared (hconsistent : Consistent broker) (hproper : Proper broker)
    {session : Session} {frame : Frame} {destination : String}
    (hdestination : frame.header? Header.destination = some destination)
    (hshared : Destination.IsShared destination) :
    broker.handleSend setting session frame = .ok (broker.publish setting destination
      ((frame.header? Header.contentType).getD jsonContentType) frame.body).2 := by
  unfold handleSend
  rw [hdestination]
  simp only
  rcases Destination.parse_of_isShared hshared with hparse | hparse | ⟨hparse, hkey⟩
  · rw [hparse]
  · rw [hparse]
  · rw [hparse, publish, subscribers_of_not_isKey hconsistent hproper hkey]
    rfl

theorem handleFrame_of_handleSend {session : Session} {frame : Frame}
    (hlive : broker.registry.get? session.id = some session)
    (hauthenticated : session.authenticated = true) (hcommand : frame.command = .send)
    (hsend : broker.handleSend setting session frame = .ok after) :
    broker.handleFrame setting session.id frame =
      (.continue, after.sendReceipt setting session frame) := by
  rw [handleFrame_of_authenticated (hcommand ▸ rfl) hlive hauthenticated]
  simp only [handleAuthenticated, hcommand, hsend, settle]

/-- Every publish reaches the entries under its destination. -/
structure FansOut (broker : Broker) : Prop where
  broadcast : ∀ setting destination body, ∃ attempts,
    Published broker (broker.run setting (.broadcast destination body))
        ⟨destination, jsonContentType, body⟩ attempts [] ∧
      (broker.broadcast setting destination body).1 = attempts.countP Attempt.succeeded
  send : ∀ setting (session : Session) (frame : Frame) destination,
    broker.registry.get? session.id = some session → session.authenticated = true →
      frame.command = .send → frame.header? Header.destination = some destination →
        Destination.IsShared destination →
          ∃ attempts rest, Published broker (broker.run setting (.handleFrame session.id frame))
            ⟨destination, (frame.header? Header.contentType).getD jsonContentType, frame.body⟩
            attempts rest

/-- Whatever was asked of the broker and whatever its sinks do, a publish is one write for each
subscription. -/
theorem fansOut_of_reachable {allowed : Setting → Broker → Operation → Prop}
    (h : Reachable allowed broker) : FansOut broker := by
  have hconsistent := h.consistent
  have hproper := h.proper
  constructor
  · intro setting destination body
    obtain ⟨attempts, hfanned, hcount⟩ :=
      exists_fannedOut_publish hconsistent setting ⟨destination, jsonContentType, body⟩
    have hnumbered : Numbered (broker.run setting (.broadcast destination body)) :=
      h.numbered.run trivial
    exact ⟨attempts, hfanned.published hproper hnumbered, hcount⟩
  · intro setting session frame destination hlive hauthenticated hcommand hdestination hshared
    obtain ⟨attempts, hfanned, -⟩ := exists_fannedOut_publish hconsistent setting
      ⟨destination, (frame.header? Header.contentType).getD jsonContentType, frame.body⟩
    obtain ⟨rest, hanswered⟩ := hfanned.receipt setting session frame
    have hrun : broker.run setting (.handleFrame session.id frame) =
        (broker.publish setting destination
          ((frame.header? Header.contentType).getD jsonContentType) frame.body).2.sendReceipt
            setting session frame := by
      rw [run, handleFrame_of_handleSend hlive hauthenticated hcommand
        (handleSend_of_isShared hconsistent hproper hdestination hshared)]
    have hnumbered : Numbered (broker.run setting (.handleFrame session.id frame)) :=
      h.numbered.run trivial
    rw [← hrun] at hanswered
    exact ⟨attempts, rest, hanswered.published hproper hnumbered⟩

/-- A session subscribed to a topic, and another one that may send to it. -/
theorem fansOut_of_reachable_prepared :
    Reachable FromWire Forgery.prepared ∧ FansOut Forgery.prepared ∧
      Forgery.prepared.table.entries = [("/topic/x", ⟨Forgery.receiver, "0"⟩)] :=
  ⟨Forgery.reachable_prepared, fansOut_of_reachable Forgery.reachable_prepared, rfl⟩

/-! ### Ids that come again, and a receipt that gets lost -/

namespace Forgery

/-- The receiver is still subscribed, and its connection takes all that is written. -/
structure Serves (broker : Broker) : Prop where
  registry_eq : broker.registry = prepared.registry
  table_eq : broker.table = prepared.table
  sink_eq : ∃ begun, broker.sink receiver = { begun }

/-- The broker after so many messages for the subscribers of the topic. -/
def published : Nat → Broker
  | 0 => prepared
  | count + 1 => (published count).run Forgery.setting (.broadcast "/topic/x" [])

/-- Such a message is written to the receiver. -/
theorem run_broadcast_of_serves {begun : Nat} (h : Serves broker)
    (hsink : broker.sink receiver = { begun }) :
    broker.run Forgery.setting (.broadcast "/topic/x" []) =
      ({ broker with nextMessageId := broker.nextMessageId + 1 }.setSink receiver
        { begun := begun + 1 }).record
          (.wrote receiver .v10 (.message "/topic/x" "0" (toString broker.nextMessageId)
            jsonContentType []) .written) := by
  have htargets : targets broker.registry (broker.table.subscribers "/topic/x") =
      [({ (fresh receiver).authenticate "u" .v10 with subscriptions := [("0", "/topic/x")] },
        "0")] := by
    rw [h.registry_eq, h.table_eq]
    rfl
  have hcounted : Broker.sink { broker with nextMessageId := broker.nextMessageId + 1 } receiver =
      { begun } := hsink
  simp only [run, broadcast, publish, deliver, htargets, List.foldl_cons, List.foldl_nil,
    deliverTo, write, Session.authenticate, fresh, hcounted]
  rfl

theorem Serves.run (h : Serves broker) :
    Serves (broker.run Forgery.setting (.broadcast "/topic/x" [])) ∧
      (broker.run Forgery.setting (.broadcast "/topic/x" [])).messageIds.length =
        broker.messageIds.length + 1 := by
  obtain ⟨begun, hsink⟩ := h.sink_eq
  rw [run_broadcast_of_serves h hsink]
  refine ⟨⟨h.registry_eq, h.table_eq, begun + 1, sink_setSink.trans (if_pos rfl)⟩, ?_⟩
  simp [messageIds, record, setSink, Event.message?, Frame.message]

theorem serves_published (count : Nat) :
    Serves (published count) ∧ (published count).messageIds.length = count := by
  induction count with
  | zero => exact ⟨⟨rfl, rfl, 1, rfl⟩, rfl⟩
  | succ count ih =>
    obtain ⟨hserves, hlength⟩ := ih
    obtain ⟨hserves, hmore⟩ := hserves.run
    rw [published, hmore, hlength]
    exact ⟨hserves, rfl⟩

theorem later_published (count : Nat) : Later FromWire prepared (published count) := by
  induction count with
  | zero => exact .refl
  | succ count ih => exact .step ih trivial trivial

/-- A message that asks for a receipt. -/
def announced : Frame where
  command := .send
  headers := [(Header.destination, "/topic/x"), (Header.receipt, "done")]
  body := []

end Forgery

/-- Of one message more than the counter has numbers, two have the same id. And a client whose
receipt for a message was refused stays. -/
theorem ids_recur_and_sender_stays :
    (Reachable FromWire Forgery.prepared ∧
      Later FromWire Forgery.prepared (Forgery.published (UInt64.size + 1)) ∧
      ¬(Forgery.published (UInt64.size + 1)).messageIds.Nodup) ∧
    let after := Forgery.exhausted.run Forgery.setting
      (.handleFrame Forgery.receiver Forgery.announced)
    Reachable Anything Forgery.exhausted ∧
      after.journal = Forgery.exhausted.journal ++
        [.wrote Forgery.receiver .v10 (.receipt "done") (.refused "sink failed")] ∧
      after.registry.get? Forgery.receiver ≠ none := by
  constructor
  · have hlater := Forgery.later_published (UInt64.size + 1)
    have hnumbered : Numbered (Forgery.published (UInt64.size + 1)) :=
      Forgery.reachable_prepared.numbered.later hlater
    refine ⟨Forgery.reachable_prepared, hlater, ?_⟩
    rw [hnumbered.nodup_messageIds_iff, (Forgery.serves_published _).2]
    exact Nat.not_succ_le_self UInt64.size
  · exact ⟨Forgery.reachable_exhausted, by decide, by decide⟩

end Broker

end StompBroker
