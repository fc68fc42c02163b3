import StompBroker.Proofs.Broker.Answer
import StompBroker.Proofs.Broker.Private
import StompBroker.Service.Notices

/-!
# How often a notice arrives

A notice for everybody is one delivery, a notice for a list of users is one delivery for each name
in the list. As long as every write succeeds nobody is taken out between them, so each of them
reaches what the table holds for that user (`exists_told`).

Hence everybody who is addressed gets a notice, nobody else does, and a notice for everybody arrives
once. A listed user gets it as often as the list names that user, and the names that are trimmed to
the same text count together (`exists_notified_process`).
-/

set_option autoImplicit false

namespace StompBroker

/-! ### Copies of a message -/

namespace Event

/-- A MESSAGE with the body was written to the subscription. -/
def brings (body : Bytes) (subscriber : Subscriber) : Event → Bool
  | wrote id _ frame outcome =>
    id = subscriber.session ∧ frame.command = .message ∧
      frame.header? Header.subscription = some subscriber.subscription ∧ frame.body = body ∧
        outcome = .written
  | _ => false

end Event

theorem Attempt.brings_event_iff {message : Message} {attempt : Attempt}
    (h : attempt.succeeded = true) {subscriber : Subscriber} :
    (attempt.event message).brings message.body subscriber = true ↔
      attempt.subscriber = subscriber := by
  have hdelivers := attempt.delivers message
  obtain ⟨session, subscription⟩ := subscriber
  have houtcome : attempt.outcome = .written := of_decide_eq_true h
  simp only [event, Event.brings, hdelivers.command, hdelivers.subscription, hdelivers.body,
    houtcome, Option.some.injEq, and_true, true_and, decide_eq_true_eq, subscriber,
    Subscriber.mk.injEq]

namespace Broker

variable {setting : Setting} {broker after : Broker} {message : Message} {attempts : List Attempt}
  {subscribers : List Subscriber} {rest : List Event}

/-- Every write among the events succeeded. -/
def Succeeded (events : List Event) : Prop := ∀ id, ¬Failed events id

theorem succeeded_append_iff {first second : List Event} :
    Succeeded (first ++ second) ↔ Succeeded first ∧ Succeeded second := by
  simp only [Succeeded, Failed, List.mem_append, or_and_right, exists_or, not_or, forall_and]

theorem succeeded_of_attempts (h : Succeeded (attempts.map (Attempt.event message))) :
    ∀ attempt ∈ attempts, attempt.succeeded = true := by
  intro attempt hmem
  by_contra hfailed
  refine h attempt.session.id ⟨_, List.mem_map_of_mem hmem, rfl, fun houtcome ↦ hfailed ?_⟩
  exact decide_eq_true houtcome

theorem not_lost_of_succeeded (h : Succeeded (attempts.map (Attempt.event message)))
    (id : SessionId) : ¬Lost attempts id := by
  rintro ⟨attempt, hmem, -, hfailed⟩
  rw [succeeded_of_attempts h attempt hmem] at hfailed
  cases hfailed

/-- The events are writes of one body, so many to each subscription. -/
structure Brought (body : Bytes) (copies : Subscriber → Nat) (events : List Event) : Prop where
  count : ∀ subscriber, events.countP (Event.brings body subscriber) = copies subscriber
  only : ∀ event ∈ events, ∃ subscriber, event.brings body subscriber = true

theorem Brought.append {body : Bytes} {copies more : Subscriber → Nat} {first second : List Event}
    (h : Brought body copies first) (h' : Brought body more second) :
    Brought body (fun subscriber ↦ copies subscriber + more subscriber) (first ++ second) := by
  refine ⟨fun subscriber ↦ ?_, fun event hmem ↦ ?_⟩
  · rw [List.countP_append, h.count, h'.count]
  · rcases List.mem_append.mp hmem with hfirst | hsecond
    · exact h.only event hfirst
    · exact h'.only event hsecond

/-- A delivery that succeeds brings its message to each subscriber once. -/
theorem FannedOut.brought (h : FannedOut broker after message subscribers attempts [])
    (hnodup : subscribers.Nodup) (hsucceeded : Succeeded (attempts.map (Attempt.event message))) :
    Brought message.body (fun subscriber ↦ if subscriber ∈ subscribers then 1 else 0)
      (attempts.map (Attempt.event message)) := by
  have hbrings (subscriber : Subscriber) : ∀ attempt ∈ attempts,
      (attempt.event message).brings message.body subscriber = true ↔
        attempt.subscriber = subscriber :=
    fun attempt hmem ↦ Attempt.brings_event_iff (succeeded_of_attempts hsucceeded attempt hmem)
  refine ⟨fun subscriber ↦ ?_, fun event hmem ↦ ?_⟩
  · have hcount : (attempts.map (Attempt.event message)).countP
        (Event.brings message.body subscriber) = subscribers.count subscriber := by
      rw [← h.recipients, List.count, List.countP_map, List.countP_map]
      refine List.countP_congr fun attempt hmem ↦ ?_
      rw [Function.comp_apply, Function.comp_apply, hbrings subscriber attempt hmem, beq_iff_eq]
    rw [hcount]
    exact hnodup.count
  · obtain ⟨attempt, hattempt, rfl⟩ := List.mem_map.mp hmem
    exact ⟨attempt.subscriber, (hbrings _ attempt hattempt).mpr rfl⟩

/-! ### A notice for a list of users -/

/-- The private queue of notices. -/
def noticeKey : String := userQueue Topic.message

/-- Where all writes succeeded, the recipients of the next delivery are the same as before. -/
theorem FannedOut.mem_recipients_iff (h : FannedOut broker after message subscribers attempts rest)
    (hconsistent : Consistent broker) (hproper : Proper broker) (hconsistent' : Consistent after)
    (hproper' : Proper after) (hsucceeded : Succeeded (attempts.map (Attempt.event message)))
    (name : String) {subscriber : Subscriber} :
    subscriber ∈ after.recipients name noticeKey ↔
      subscriber ∈ broker.recipients name noticeKey := by
  have hkept (id : SessionId) : after.registry.get? id = broker.registry.get? id :=
    h.kept id (not_lost_of_succeeded hsucceeded id)
  have hheld : after.HeldBy name subscriber ↔ broker.HeldBy name subscriber := by
    rw [HeldBy, HeldBy, hkept]
  rw [Broker.mem_recipients_iff hconsistent' hproper',
    Broker.mem_recipients_iff hconsistent hproper, h.entries,
    and_iff_left (not_lost_of_succeeded hsucceeded _), hheld]

/-- A body as it is delivered to the private queue of a user. -/
def noticeFor (name : String) (body : Bytes) : Message :=
  ⟨userDestination name Topic.message, jsonContentType, body⟩

/-- Delivers a body to the private queues of users, one after the other. -/
def tell (setting : Setting) (names : List String) (body : Bytes) (broker : Broker) : Broker :=
  names.foldl (fun broker name ↦ (broker.sendToQueue setting name Topic.message body).2) broker

/-- A delivery to one user leaves the broker in order. -/
theorem exists_told_one (setting : Setting) (name : String) (body : Bytes)
    (hconsistent : Consistent broker) (hproper : Proper broker) :
    let after := (broker.sendToQueue setting name Topic.message body).2
    Consistent after ∧ Proper after ∧ ∃ attempts,
      Routed broker after name noticeKey (noticeFor name body) attempts [] := by
  refine ⟨?_, ?_, ?_⟩
  · have houtputs : Outputs setting .closeAll broker broker _ :=
      outputs_deliverToUser name Topic.message jsonContentType body
    exact hconsistent.outputs houtputs
  · have hafter : Proper (broker.run setting (.sendToQueue name Topic.message body)) :=
      hproper.run trivial
    exact hafter
  · exact exists_routed_deliverToUser hconsistent hproper setting name Topic.message
      jsonContentType body

/-- A subscription gets a copy for each name in the list that it belongs to. -/
theorem exists_told (setting : Setting) (names : List String) (body : Bytes)
    (hconsistent : Consistent broker) (hproper : Proper broker) :
    ∃ events, (tell setting names body broker).journal = broker.journal ++ events ∧
      (Succeeded events → Brought body
        (fun subscriber ↦ names.countP fun name ↦ subscriber ∈ broker.recipients name noticeKey)
        events) := by
  induction names generalizing broker with
  | nil =>
    refine ⟨[], (List.append_nil _).symm, fun _ ↦ ⟨fun subscriber ↦ rfl, fun event hmem ↦ ?_⟩⟩
    cases hmem
  | cons name names ih =>
    obtain ⟨hconsistent', hproper', attempts, hrouted⟩ :=
      exists_told_one setting name body hconsistent hproper
    obtain ⟨events, hjournal, hbrought⟩ := ih hconsistent' hproper'
    refine ⟨attempts.map (Attempt.event (noticeFor name body)) ++ events, ?_, fun hsucceeded ↦ ?_⟩
    · refine hjournal.trans ?_
      rw [hrouted.journal, List.append_nil, List.append_assoc]
    · obtain ⟨hfirst, hothers⟩ := succeeded_append_iff.mp hsucceeded
      have hnodup : (broker.recipients name noticeKey).Nodup :=
        hproper.table.nodup_lookup.filter _
      have hboth := (hrouted.toFannedOut.brought hnodup hfirst).append (hbrought hothers)
      refine ⟨fun subscriber ↦ (hboth.count subscriber).trans ?_, hboth.only⟩
      have hsame (other : String) : subscriber ∈
          ((broker.sendToQueue setting name Topic.message body).2.recipients other noticeKey) ↔
            subscriber ∈ broker.recipients other noticeKey :=
        hrouted.toFannedOut.mem_recipients_iff hconsistent hproper hconsistent' hproper' hfirst
          other
      simp only [hsame, List.countP_cons, decide_eq_true_eq]
      exact Nat.add_comm _ _

theorem HeldBy.unique {name username : String} {subscriber : Subscriber}
    (h : broker.HeldBy name subscriber) (h' : broker.HeldBy username subscriber) :
    name = username := by
  obtain ⟨session, hlive, -, rfl⟩ := h
  obtain ⟨session', hlive', -, rfl⟩ := h'
  rw [hlive] at hlive'
  cases hlive'
  rfl

/-- A subscription belongs to the names of its user. -/
theorem countP_recipients (hconsistent : Consistent broker) (hproper : Proper broker)
    (names : List String) {username : String} {subscriber : Subscriber}
    (hentry : (noticeKey, subscriber) ∈ broker.table.entries)
    (hheld : broker.HeldBy username subscriber) :
    (names.countP fun name ↦ subscriber ∈ broker.recipients name noticeKey) =
      names.count username := by
  refine List.countP_congr fun name _ ↦ ?_
  rw [decide_eq_true_eq, beq_iff_eq, Broker.mem_recipients_iff hconsistent hproper]
  constructor
  · rintro ⟨-, hname⟩
    exact hname.unique hheld
  · rintro rfl
    exact ⟨hentry, hheld⟩

/-! ### The job of a notice -/

theorem snd_foldl_sendToQueue (setting : Setting) (body : Bytes) (names : List String)
    (delivered : Nat) (broker : Broker) :
    (names.foldl (fun (delivered, broker) name ↦
      let (more, broker) := broker.sendToQueue setting name Topic.message body
      (delivered + more, broker)) (delivered, broker)).2 = tell setting names body broker := by
  induction names generalizing delivered broker with
  | nil => rfl
  | cons name names ih => exact ih _ _

theorem broker_process_listed {σ : Type} (service : Service σ) (notice : NoticeMessage)
    (names : List String) :
    (service.process (.deliverNotice notice (.users names))).broker =
      tell service.setting names notice.body service.broker :=
  snd_foldl_sendToQueue service.setting notice.body names 0 service.broker

end Broker

namespace Notice

theorem mem_names_iff {users : List String} {name : String} :
    name ∈ names users ↔ name ≠ "" ∧ ∃ user ∈ users, Text.trim user = name := by
  simp only [names, List.mem_filter, List.mem_map, Bool.not_eq_true', String.isEmpty_eq_false_iff,
    and_comm]

/-- A request is accepted for everybody, or for the names in a list that has some. -/
theorem audience_eq_ok {title : String} {targetType : Int} {users : List String}
    {audience : Audience} (h : Notice.audience title targetType users = .ok audience) :
    targetType = 1 ∧ audience = .all ∨ targetType = 2 ∧ audience = .users (names users) := by
  unfold Notice.audience at h
  split at h
  · cases h
  split at h
  · rename_i htype
    cases h
    exact .inl ⟨htype, rfl⟩
  split at h
  · rename_i htype
    split at h
    · cases h
    · cases h
      exact .inr ⟨htype, rfl⟩
  · cases h

end Notice

namespace Broker

variable {setting : Setting} {broker : Broker} {body : Bytes} {events : List Event}

/-- The subscription is one that the notice is for: by its target type, the private queues of listed
users, whose names are trimmed and not empty, or the topic of notices. -/
inductive MeantFor (broker : Broker) (users : List String) : Int → Subscriber → Prop
  | everybody {subscriber : Subscriber} :
      ("/topic/notice", subscriber) ∈ broker.table.entries → MeantFor broker users 1 subscriber
  | listed {subscriber : Subscriber} {user : String} :
      ("/user/queue/message", subscriber) ∈ broker.table.entries → user ∈ users →
        Text.trim user ≠ "" → broker.HeldBy (Text.trim user) subscriber →
          MeantFor broker users 2 subscriber

/-- What the delivery of a notice wrote. -/
structure Notified (broker : Broker) (targetType : Int) (users : List String) (body : Bytes)
    (events : List Event) : Prop where
  /-- It wrote nothing but the notice, to those it is for. -/
  only : ∀ event ∈ events, ∃ subscriber,
    MeantFor broker users targetType subscriber ∧ event.brings body subscriber = true
  /-- Nobody else got it. -/
  others : ∀ subscriber, ¬MeantFor broker users targetType subscriber →
    events.countP (Event.brings body subscriber) = 0
  /-- A notice for everybody arrived once. -/
  everybody : targetType = 1 → ∀ subscriber,
    ("/topic/notice", subscriber) ∈ broker.table.entries →
      events.countP (Event.brings body subscriber) = 1
  /-- A notice for listed users arrived as often as the names in the list are the user's. -/
  listed : targetType = 2 → ∀ subscriber username,
    ("/user/queue/message", subscriber) ∈ broker.table.entries →
      broker.HeldBy username subscriber →
        events.countP (Event.brings body subscriber) = (Notice.names users).count username
  /-- So everybody whom it is for got it once exactly if nobody of them is listed twice. -/
  once_iff :
    (∀ subscriber, MeantFor broker users targetType subscriber →
      events.countP (Event.brings body subscriber) = 1) ↔
    (targetType = 2 → ∀ subscriber username,
      ("/user/queue/message", subscriber) ∈ broker.table.entries →
        broker.HeldBy username subscriber → (Notice.names users).count username ≤ 1)

/-- Whoever gets a copy finds the notice in what was written, and nobody else does. -/
theorem Brought.only_meant {copies : Subscriber → Nat} (h : Brought body copies events)
    {meant : Subscriber → Prop} (hmeant : ∀ subscriber, copies subscriber ≠ 0 → meant subscriber) :
    (∀ event ∈ events, ∃ subscriber, meant subscriber ∧ event.brings body subscriber = true) ∧
      ∀ subscriber, ¬meant subscriber → events.countP (Event.brings body subscriber) = 0 := by
  refine ⟨fun event hmem ↦ ?_, fun subscriber hnot ↦ ?_⟩
  · obtain ⟨subscriber, hbrings⟩ := h.only event hmem
    have hpos : 0 < events.countP (Event.brings body subscriber) :=
      List.countP_pos_iff.mpr ⟨event, hmem, hbrings⟩
    rw [h.count] at hpos
    exact ⟨subscriber, hmeant subscriber (Nat.ne_of_gt hpos), hbrings⟩
  · rw [h.count]
    by_contra hcopies
    exact hnot (hmeant subscriber hcopies)

theorem notified_everybody (hproper : Proper broker) (users : List String)
    (h : Brought body
      (fun subscriber ↦ if subscriber ∈ broker.table.subscribers Topic.notice then 1 else 0)
      events) :
    Notified broker 1 users body events := by
  have hsubscribed {subscriber : Subscriber} :
      subscriber ∈ broker.table.subscribers Topic.notice ↔
        ("/topic/notice", subscriber) ∈ broker.table.entries :=
    SubscriptionTable.mem_subscribers_iff hproper.table
  have honce (subscriber : Subscriber)
      (hentry : ("/topic/notice", subscriber) ∈ broker.table.entries) :
      events.countP (Event.brings body subscriber) = 1 := by
    rw [h.count, if_pos (hsubscribed.mpr hentry)]
  have hmeant (subscriber : Subscriber)
      (hcopies : (if subscriber ∈ broker.table.subscribers Topic.notice then 1 else 0) ≠ 0) :
      MeantFor broker users 1 subscriber :=
    .everybody (hsubscribed.mp (ite_ne_right_iff.mp hcopies).1)
  obtain ⟨honly, hothers⟩ := h.only_meant hmeant
  refine ⟨honly, hothers, fun _ ↦ honce, fun htype ↦ ?_, ?_⟩
  · exact absurd htype (by decide)
  · refine iff_of_true (fun subscriber hmeant ↦ ?_) fun htype ↦ absurd htype (by decide)
    cases hmeant with
    | everybody hentry => exact honce subscriber hentry

theorem notified_listed (hconsistent : Consistent broker) (hproper : Proper broker)
    (users : List String)
    (h : Brought body (fun subscriber ↦
      (Notice.names users).countP fun name ↦ subscriber ∈ broker.recipients name noticeKey)
      events) :
    Notified broker 2 users body events := by
  have hlisted (subscriber : Subscriber) (username : String)
      (hentry : (noticeKey, subscriber) ∈ broker.table.entries)
      (hheld : broker.HeldBy username subscriber) :
      events.countP (Event.brings body subscriber) = (Notice.names users).count username := by
    rw [h.count, countP_recipients hconsistent hproper _ hentry hheld]
  have hmeant (subscriber : Subscriber)
      (hcopies : ((Notice.names users).countP fun name ↦
        subscriber ∈ broker.recipients name noticeKey) ≠ 0) :
      MeantFor broker users 2 subscriber := by
    obtain ⟨name, hname, hrecipient⟩ := List.countP_pos_iff.mp (Nat.pos_of_ne_zero hcopies)
    obtain ⟨hentry, hheld⟩ :=
      (Broker.mem_recipients_iff hconsistent hproper).mp (of_decide_eq_true hrecipient)
    obtain ⟨hne, user, huser, rfl⟩ := Notice.mem_names_iff.mp hname
    exact .listed hentry huser hne hheld
  obtain ⟨honly, hothers⟩ := h.only_meant hmeant
  refine ⟨honly, hothers, fun htype ↦ absurd htype (by decide), fun _ ↦ hlisted, ?_⟩
  constructor
  · intro honce _ subscriber username hentry hheld
    by_cases hname : username ∈ Notice.names users
    · obtain ⟨hne, user, huser, rfl⟩ := Notice.mem_names_iff.mp hname
      rw [← hlisted subscriber _ hentry hheld]
      exact Nat.le_of_eq (honce subscriber (.listed hentry huser hne hheld))
    · rw [List.count_eq_zero_of_not_mem hname]
      exact Nat.zero_le 1
  · intro hsingle subscriber hmeant
    cases hmeant with
    | listed hentry huser hne hheld =>
      rw [hlisted subscriber _ hentry hheld]
      refine Nat.le_antisymm (hsingle rfl subscriber _ hentry hheld) ?_
      exact List.count_pos_iff.mpr (Notice.mem_names_iff.mpr ⟨hne, _, huser, rfl⟩)

/-- The job of an accepted notice, in whatever state it finds the broker: what it writes if all
writes succeed. -/
theorem exists_notified_process {σ : Type} {allowed : Setting → Broker → Operation → Prop}
    {service : Service σ} (hreachable : Reachable allowed service.broker) {title : String}
    {targetType : Int} {users : List String} {audience : Audience}
    (haccepted : Notice.audience title targetType users = .ok audience) (notice : NoticeMessage) :
    ∃ events,
      (service.process (.deliverNotice notice audience)).broker.journal =
        service.broker.journal ++ events ∧
      (Succeeded events → Notified service.broker targetType users notice.body events) := by
  have hconsistent := hreachable.consistent
  have hproper := hreachable.proper
  rcases Notice.audience_eq_ok haccepted with ⟨rfl, rfl⟩ | ⟨rfl, rfl⟩
  · obtain ⟨attempts, hfanned, -⟩ := exists_fannedOut_publish hconsistent service.setting
      ⟨Topic.notice, jsonContentType, notice.body⟩
    refine ⟨attempts.map (Attempt.event ⟨Topic.notice, jsonContentType, notice.body⟩), ?_,
      fun hsucceeded ↦ ?_⟩
    · refine hfanned.journal.trans ?_
      rw [List.append_nil]
    · exact notified_everybody hproper users
        (hfanned.brought hproper.table.nodup_lookup hsucceeded)
  · obtain ⟨events, hjournal, hbrought⟩ := exists_told service.setting (Notice.names users)
      notice.body hconsistent hproper
    refine ⟨events, ?_, fun hsucceeded ↦ ?_⟩
    · rw [broker_process_listed, hjournal]
    · exact notified_listed hconsistent hproper users (hbrought hsucceeded)

end Broker

/-! ### A user who awaits notices -/

namespace Broker

namespace Mailbox

/-- One user has subscribed to private notices. -/
def broker : Broker where
  registry :=
    { sessions :=
        [{ (Forgery.fresh Forgery.receiver).authenticate "u" .v10 with
            subscriptions := [("0", "/user/queue/message")] }]
      users := [("u", [Forgery.receiver])] }
  table := ⟨[("/user/queue/message", [⟨Forgery.receiver, "0"⟩])]⟩
  sinks := Forgery.connected.sinks
  journal := Forgery.connected.journal

theorem reachable_broker : Reachable (fun _ _ _ ↦ True) broker := by
  have hrun : Forgery.connected.run Greetings.setting
      (.handleFrame Forgery.receiver (Greetings.subscribe "/user/queue/message")) = broker := rfl
  rw [← hrun]
  exact .step Greetings.reachable_connected trivial trivial

def service : Service LivenessCache :=
  { Service.start {} ⟨0⟩ LivenessCache.empty with broker := broker }

def notice : NoticeMessage := ⟨1, "t", "c", "v", 0⟩

/-- The copy of the notice with a number. -/
def copy (number : Nat) : Event :=
  .wrote Forgery.receiver .v10
    (.message "/user/u/queue/message" "0" (toString number) jsonContentType notice.body) .written

theorem journal_once :
    (service.process (.deliverNotice notice (.users ["u", "x"]))).broker.journal =
      broker.journal ++ [copy 1] :=
  rfl

theorem journal_twice :
    (service.process (.deliverNotice notice (.users ["u", "u"]))).broker.journal =
      broker.journal ++ [copy 1, copy 2] :=
  rfl

def subscriber : Subscriber := ⟨Forgery.receiver, "0"⟩

theorem heldBy : broker.HeldBy "u" subscriber := ⟨_, rfl, rfl, rfl⟩

theorem brings_copy (number : Nat) : (copy number).brings notice.body subscriber = true := by
  rw [copy, Event.brings]
  exact decide_eq_true ⟨rfl, rfl, rfl, rfl, rfl⟩

theorem succeeded_copies (numbers : List Nat) : Succeeded (numbers.map copy) := by
  rintro id ⟨event, hmem, hfails⟩
  obtain ⟨number, -, rfl⟩ := List.mem_map.mp hmem
  exact hfails.2 rfl

end Mailbox

open Mailbox in
/-- A user who is listed once gets the notice once, blanks around the name or not. -/
theorem exists_notified_process_mailbox :
    Reachable (fun _ _ _ ↦ True) service.broker ∧
      Notice.audience "t" 2 [" u ", "x"] = .ok (.users ["u", "x"]) ∧
      ∃ events,
        (service.process (.deliverNotice notice (.users ["u", "x"]))).broker.journal =
          service.broker.journal ++ events ∧
        Succeeded events ∧ Notified service.broker 2 [" u ", "x"] notice.body events ∧
        events.countP (Event.brings notice.body subscriber) = 1 := by
  have haccepted : Notice.audience "t" 2 [" u ", "x"] = .ok (.users ["u", "x"]) := by decide
  have hreachable : Reachable (fun _ _ _ ↦ True) service.broker := reachable_broker
  obtain ⟨events, hjournal, hnotified⟩ := exists_notified_process hreachable haccepted notice
  have hevents : events = [1].map copy :=
    List.append_cancel_left (hjournal.symm.trans journal_once)
  have hsucceeded : Succeeded events := hevents ▸ succeeded_copies [1]
  have hcount := (hnotified hsucceeded).listed rfl subscriber "u" List.mem_cons_self heldBy
  exact ⟨hreachable, haccepted, events, hjournal, hsucceeded, hnotified hsucceeded,
    hcount.trans (by decide)⟩

open Mailbox in
/-- A user who is listed twice gets it twice. -/
theorem twice_mailbox :
    Reachable (fun _ _ _ ↦ True) service.broker ∧
      Notice.audience "t" 2 ["u", "u "] = .ok (.users ["u", "u"]) ∧
      ∃ events,
        (service.process (.deliverNotice notice (.users ["u", "u"]))).broker.journal =
          service.broker.journal ++ events ∧
        Succeeded events ∧ MeantFor service.broker ["u", "u "] 2 subscriber ∧
        events.countP (Event.brings notice.body subscriber) = 2 := by
  have hmeant : MeantFor service.broker ["u", "u "] 2 subscriber :=
    have hlisted : "u" ∈ ["u", "u "] := List.mem_cons_self
    .listed List.mem_cons_self hlisted (by decide) heldBy
  have hcount : ([1, 2].map copy).countP (Event.brings notice.body subscriber) = 2 := by
    simp only [List.map_cons, List.map_nil, List.countP_cons, brings_copy, if_true,
      List.countP_nil]
  exact ⟨reachable_broker, by decide, [1, 2].map copy, journal_twice, succeeded_copies [1, 2],
    hmeant, hcount⟩

end Broker

end StompBroker
