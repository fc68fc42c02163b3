import StompBroker.Proofs.Broker.Access
import StompBroker.Proofs.Broker.Fanout

/-!
# One act after the other

What the broker does for a client, or to publish, is a sequence of `Act`s: it changes one of its
books, writes one frame, or takes out a session that a write failed to reach. Between two acts of a
handshake, a SUBSCRIBE or an UNSUBSCRIBE the books need not agree, so whoever breaks off there
leaves more behind than any operation does. `acts_handleFrame` finds the acts of every frame of a
client, and `acts_deliver` those of a delivery.

The acts that are done for one client leave the records of all other sessions alone
(`get?_of_acts`). They give that client any frame, but everybody else only messages, and those only
if they are authenticated (`Uttered`).

With what is asked of the broker besides, acts are its `Deed`s, and every operation is a sequence of
these (`Consistent.deeds_run`). What each of them keeps holds also where no operation leads, behind
acts that broke off.
-/

set_option autoImplicit false

namespace StompBroker.Broker

variable {setting : Setting} {operation : Operation} {client : Option SessionId}
  {origin broker after : Broker}
  {id : SessionId} {session : Session} {frame : Frame} {message : Message}

/-- A write to the session failed. -/
def Unreached (broker : Broker) (id : SessionId) : Prop :=
  ∃ version frame outcome, .wrote id version frame outcome ∈ broker.journal ∧ outcome ≠ .written

theorem Unreached.extends (h : broker.Unreached id) (hextends : Extends broker after) :
    after.Unreached id := by
  obtain ⟨version, frame, outcome, hmem, hfailed⟩ := h
  obtain ⟨events, hevents⟩ := hextends
  exact ⟨version, frame, outcome, hevents ▸ List.mem_append_left events hmem, hfailed⟩

/-! ### Acts -/

/-- One act of the broker, for a client or for nobody. -/
inductive Act (setting : Setting) (client : Option SessionId) (broker : Broker) : Broker → Prop
  /-- An accepted handshake enters the record of its session. -/
  | named {session : Session} (username : String) (version : Version) :
    client = some session.id → broker.registry.get? session.id = some session →
      session.authenticated = false →
        Act setting client broker
          { broker with
            registry := broker.registry.update session.id (·.authenticate username version) }
  /-- The session is listed under its user. -/
  | bound {session : Session} {registry : Registry} :
    client = some session.id → broker.registry.get? session.id = some session →
      session.authenticated = true →
        broker.registry.bind session.id session.username = .ok registry →
          Act setting client broker { broker with registry }
  /-- A subscription enters the map of its session. -/
  | noted {session subscribed : Session} {subscription key : String} :
    client = some session.id → broker.registry.get? session.id = some session →
      session.subscribe? subscription key = some subscribed →
        Act setting client broker
          { broker with registry := broker.registry.update session.id fun _ ↦ subscribed }
  /-- The table follows. -/
  | entered {session : Session} (key subscription : String) :
    client = some session.id → broker.registry.get? session.id = some session →
      Act setting client broker
        { broker with table := broker.table.add key ⟨session.id, subscription⟩ }
  /-- A subscription leaves the map of its session. -/
  | dropped {session : Session} (subscription : String) :
    client = some session.id → broker.registry.get? session.id = some session →
      Act setting client broker
        { broker with registry := broker.registry.update session.id (·.unsubscribe subscription) }
  /-- The table follows. -/
  | removed {id : SessionId} (key subscription : String) :
    client = some id →
      Act setting client broker
        { broker with table := (broker.table.remove key ⟨id, subscription⟩).2 }
  | replied {session : Session} (frame : Frame) :
    client = some session.id → Act setting client broker (broker.send setting session frame).2
  | delivered {session : Session} {frame : Frame} (freeAt : Nat) :
    broker.registry.get? session.id = some session → session.authenticated = true →
      frame.command = .message →
        Act setting client broker
          ({ broker with nextMessageId := broker.nextMessageId + 1 }.write session.id
            session.version frame freeAt setting.writeTimeout).2.2
  | retired {id : SessionId} : broker.Unreached id → Act setting client broker (broker.retire id)

/-- Any number of acts. -/
abbrev Acts (setting : Setting) (client : Option SessionId) : Broker → Broker → Prop :=
  Relation.ReflTransGen (Act setting client)

/-! ### Deliveries -/

theorem acts_deliver_fold {targets : List (Session × String)} (fanout : Fanout)
    (h : ∀ target ∈ targets, fanout.broker.registry.get? target.1.id = some target.1 ∧
      target.1.authenticated = true) :
    Acts setting client fanout.broker
      (targets.foldl (deliverTo setting message.destination message.contentType message.body)
        fanout).broker := by
  induction targets generalizing fanout with
  | nil => exact .refl
  | cons target targets ih =>
    obtain ⟨hlive, hauthenticated⟩ := h target List.mem_cons_self
    obtain ⟨_, -, hattempted⟩ := exists_attempted_deliverTo setting message fanout target
    have hwritten : (deliverTo setting message.destination message.contentType message.body fanout
        target).broker =
          ({ fanout.broker with nextMessageId := fanout.broker.nextMessageId + 1 }.write
            target.1.id target.1.version
            (.message message.destination target.2 (toString fanout.broker.nextMessageId)
              message.contentType message.body)
            ((fanout.busy.lookup target.1.id).getD 0) setting.writeTimeout).2.2 := by
      unfold deliverTo
      simp only
      split <;> rfl
    have hact : Act setting client fanout.broker (deliverTo setting message.destination
        message.contentType message.body fanout target).broker := by
      rw [hwritten]
      exact .delivered _ hlive hauthenticated rfl
    refine .head hact (ih _ fun other hmem ↦ ?_)
    rw [hattempted.registry]
    exact h other (List.mem_cons_of_mem _ hmem)

theorem acts_retire_foldl {ids : List SessionId} (h : ∀ id ∈ ids, broker.Unreached id) :
    Acts setting client broker (ids.foldl retire broker) := by
  induction ids generalizing broker with
  | nil => exact .refl
  | cons id ids ih =>
    refine .head (.retired (h id List.mem_cons_self)) (ih fun other hmem ↦ ?_)
    have hjournal : (broker.retire id).journal = broker.journal :=
      (silent_retire_foldl broker [id]).1
    exact (h other (List.mem_cons_of_mem _ hmem)).extends ⟨[], by rw [hjournal, List.append_nil]⟩

theorem acts_deliver {subscribers : List Subscriber}
    (h : ∀ subscriber ∈ subscribers, ∀ session,
      broker.registry.get? subscriber.session = some session → session.authenticated = true) :
    Acts setting client broker (broker.deliver setting subscribers message.destination
      message.contentType message.body).2 := by
  unfold deliver
  refine .trans (acts_deliver_fold { broker := broker } fun target hmem ↦ ?_)
    (acts_retire_foldl fun id hmem ↦ ?_)
  · obtain ⟨subscriber, hsubscriber, htarget⟩ := List.mem_filterMap.mp hmem
    obtain ⟨session, hlive, rfl⟩ := Option.map_eq_some_iff.mp htarget
    exact ⟨live_of_mem_targets hmem, h subscriber hsubscriber session hlive⟩
  · obtain ⟨attempts, -, hattempted⟩ := exists_attempted_foldl setting message
      (targets broker.registry subscribers) { broker := broker }
    rw [hattempted.failed, List.nil_append, mem_failed_iff] at hmem
    obtain ⟨attempt, hattempt, rfl, hfailed⟩ := hmem
    refine ⟨attempt.session.version, attempt.frame message, attempt.outcome, ?_, ?_⟩
    · rw [hattempted.journal]
      exact List.mem_append_right _ (List.mem_map_of_mem hattempt)
    · simpa [Attempt.succeeded] using hfailed

/-- Whoever stands in the table is authenticated. -/
theorem Consistent.authenticated_of_mem_subscribers (h : Consistent broker)
    {subscriber : Subscriber} {key : String} (hmem : subscriber ∈ broker.table.subscribers key)
    (hlive : broker.registry.get? subscriber.session = some session) :
    session.authenticated = true := by
  have hentry := SubscriptionTable.mem_entries_of_mem_subscribers hmem
  obtain ⟨found, hfound, hlookup⟩ := (h.entries _ _ _).mp hentry
  obtain rfl : session = found := Option.some.inj (hlive.symm.trans hfound)
  exact h.authenticated_of_lookup hlive hlookup

theorem Consistent.acts_publish (h : Consistent broker) (message : Message) :
    Acts setting client broker
      (broker.publish setting message.destination message.contentType message.body).2 :=
  acts_deliver fun _ hmem _ hlive ↦ h.authenticated_of_mem_subscribers hmem hlive

theorem Consistent.acts_deliverToUser (h : Consistent broker) (recipient canonical : String)
    (message : Message) :
    Acts setting client broker
      (broker.deliverToUser setting recipient canonical message.destination message.contentType
        message.body).2 :=
  acts_deliver fun _ hmem _ hlive ↦
    h.authenticated_of_mem_subscribers (List.mem_of_mem_filter hmem) hlive

theorem Consistent.acts_publishFor (h : Consistent broker) (publication : Publication) :
    Acts setting client broker (broker.publishFor setting publication).2 := by
  cases publication with
  | broadcast destination body => exact h.acts_publish ⟨destination, jsonContentType, body⟩
  | toUser recipient queue body =>
    exact h.acts_deliverToUser recipient (userQueue queue)
      ⟨userDestination recipient queue, jsonContentType, body⟩

/-! ### Frames of a client -/

theorem acts_reject (text : String) (detail : Option String) :
    Acts setting (some id) broker (broker.reject setting id text detail).2 := by
  unfold reject
  cases hlive : broker.registry.get? id with
  | none => exact .refl
  | some session =>
    obtain rfl := Registry.id_of_get? hlive
    exact .single (.replied _ rfl)

theorem acts_sendReceipt :
    Acts setting (some session.id) broker (broker.sendReceipt setting session frame) := by
  unfold sendReceipt
  cases frame.header? Header.receipt with
  | none => exact .refl
  | some receipt => exact .single (.replied _ rfl)

theorem acts_enrol {username : String} {version : Version}
    (hlive : broker.registry.get? session.id = some session)
    (hnew : session.authenticated = false)
    (henrol : broker.enrol session username version = .ok after) :
    Acts setting (some session.id) broker after := by
  obtain ⟨registry, hbind, rfl⟩ := enrol_eq_ok_iff.mp henrol
  have hnamed : (broker.registry.update session.id (·.authenticate username version)).get?
      session.id = some (session.authenticate username version) :=
    Registry.get?_update_self (fun _ heq ↦ heq) hlive
  refine .tail (.single (.named username version rfl hlive hnew)) ?_
  exact @Act.bound _ _ _ (session.authenticate username version) _ rfl hnamed rfl hbind

theorem acts_handleConnect (hlive : broker.registry.get? session.id = some session)
    (hnew : session.authenticated = false) :
    Acts setting (some session.id) broker (broker.handleConnect setting session frame).2 := by
  unfold handleConnect
  split
  · exact acts_reject _ _
  · rename_i version _
    split
    · exact acts_reject _ _
    · exact acts_reject _ _
    · rename_i claims _
      split
      · exact .refl
      · rename_i middle henrol
        have hconnected : Acts setting (some session.id) broker
            (middle.send setting (session.authenticate claims.username version)
              (.connected version session.id.text)).2 :=
          (acts_enrol hlive hnew henrol).tail (.replied _ rfl)
        rcases hsend : middle.send setting (session.authenticate claims.username version)
          (.connected version session.id.text) with ⟨outcome, greeted⟩
        rw [hsend] at hconnected
        have hid : (session.authenticate claims.username version).id = session.id := rfl
        simp only [hid, hsend]
        cases outcome with
        | written => exact hconnected.trans (hid ▸ acts_sendReceipt)
        | refused reason => exact hconnected
        | timedOut => exact hconnected

theorem acts_handleSubscribe (hlive : broker.registry.get? session.id = some session)
    (h : broker.handleSubscribe session frame = .ok after) :
    Acts setting (some session.id) broker after := by
  unfold handleSubscribe at h
  split at h
  · cases h
  rename_i subscription _
  split at h
  · cases h
  split at h
  · cases h
    exact .refl
  rename_i key _
  split at h
  · cases h
  rename_i subscribed hsubscribe
  cases h
  obtain ⟨-, hsubscribed⟩ := Session.subscribe?_eq_some_iff.mp hsubscribe
  have hid : subscribed.id = session.id := by rw [← hsubscribed]
  have hnoted : (broker.registry.update session.id fun _ ↦ subscribed).get? session.id =
      some subscribed := Registry.get?_update_self (fun _ _ ↦ hid) hlive
  refine .tail (.single (.noted rfl hlive hsubscribe)) ?_
  rw [← hid] at hnoted ⊢
  exact .entered key subscription rfl hnoted

theorem acts_handleUnsubscribe (hlive : broker.registry.get? session.id = some session)
    (h : broker.handleUnsubscribe session frame = .ok after) :
    Acts setting (some session.id) broker after := by
  unfold handleUnsubscribe at h
  split at h
  · cases h
  rename_i subscription _
  split at h
  · cases h
    exact .refl
  rename_i key _
  cases h
  exact .tail (.single (.dropped subscription rfl hlive)) (.removed key subscription rfl)

theorem Consistent.acts_handleSend (h : Consistent broker)
    (hsend : broker.handleSend setting session frame = .ok after) :
    Acts setting client broker after := by
  unfold handleSend at hsend
  split at hsend
  · cases hsend
  rename_i destination _
  simp only at hsend
  split at hsend
  · cases hsend
    unfold dispatch
    split
    · exact .refl
    simp only
    split
    · exact .refl
    · exact h.acts_publishFor _
  · cases hsend
    exact h.acts_publish ⟨_, _, _⟩
  · cases hsend
    exact h.acts_publish ⟨_, _, _⟩
  · cases hsend
    exact h.acts_deliverToUser _ _ ⟨destination, _, _⟩
  · cases hsend
    exact .refl
  · cases hsend
    exact .refl

theorem acts_settle {result : Except Failure Broker}
    (h : ∀ handled, result = .ok handled → Acts setting (some session.id) broker handled) :
    Acts setting (some session.id) broker (broker.settle setting session frame result).2 := by
  cases result with
  | error failure => exact acts_reject _ _
  | ok handled => exact (h handled rfl).trans acts_sendReceipt

theorem Consistent.acts_handleAuthenticated (h : Consistent broker)
    (hlive : broker.registry.get? session.id = some session) :
    Acts setting (some session.id) broker
      (broker.handleAuthenticated setting session frame).2 := by
  have hanswered : Acts setting (some session.id) broker
      (broker.settle setting session frame (.ok broker)).2 := acts_sendReceipt
  unfold handleAuthenticated
  split
  · exact acts_settle fun _ hok ↦ acts_handleSubscribe hlive hok
  · exact acts_settle fun _ hok ↦ acts_handleUnsubscribe hlive hok
  · exact acts_settle fun _ hok ↦ h.acts_handleSend hok
  · exact acts_sendReceipt
  · exact hanswered
  · exact hanswered
  · exact hanswered
  · exact hanswered
  · exact hanswered
  all_goals exact acts_reject _ _

/-- What the broker does with a frame is a sequence of acts for its client. -/
theorem Consistent.acts_handleFrame (h : Consistent broker) (id : SessionId) (frame : Frame) :
    Acts setting (some id) broker (broker.handleFrame setting id frame).2 := by
  unfold handleFrame
  split
  · exact .refl
  · rename_i session hlive
    obtain rfl := Registry.id_of_get? hlive
    split
    · exact acts_reject _ _
    split
    · exact h.acts_handleAuthenticated hlive
    rename_i hnew
    split
    · exact acts_handleConnect hlive (by simpa using hnew)
    · exact acts_reject _ _

/-! ### What acts leave alone -/

/-- The sessions of others stay as they are, or are taken out. -/
theorem get?_of_act (h : Act setting client broker after) (hne : client ≠ some id)
    (hlive : after.registry.get? id = some session) :
    broker.registry.get? id = some session := by
  have hother : ∀ {other : SessionId}, client = some other → other ≠ id :=
    fun hclient heq ↦ hne (hclient.trans (congrArg some heq))
  cases h with
  | named username version hclient _ _ =>
    simp only at hlive
    rwa [Registry.get?_update fun _ heq ↦ by exact heq, if_neg (hother hclient)] at hlive
  | bound _ _ _ hbind =>
    simp only at hlive
    rwa [Registry.get?_of_bind hbind] at hlive
  | noted hclient _ hsubscribe =>
    obtain ⟨-, hsubscribed⟩ := Session.subscribe?_eq_some_iff.mp hsubscribe
    simp only at hlive
    rwa [Registry.get?_update fun _ _ ↦ by rw [← hsubscribed], if_neg (hother hclient)] at hlive
  | entered _ _ _ _ => exact hlive
  | dropped subscription hclient _ =>
    simp only at hlive
    rwa [Registry.get?_update fun _ heq ↦ by exact heq, if_neg (hother hclient)] at hlive
  | removed _ _ _ => exact hlive
  | replied _ _ => exact hlive
  | delivered _ _ _ _ => exact hlive
  | retired _ =>
    rw [get?_retire] at hlive
    split at hlive
    · cases hlive
    · exact hlive

theorem get?_of_acts (h : Acts setting client broker after) (hne : client ≠ some id)
    (hlive : after.registry.get? id = some session) :
    broker.registry.get? id = some session := by
  induction h with
  | refl => exact hlive
  | tail _ hact ih => exact ih (get?_of_act hact hne hlive)

/-- What acts may do to the outside, if they begin at `origin`: a client gets any frame, and others
get messages. -/
def Uttered (client : Option SessionId) (origin : Broker) : Event → Prop
  | .wrote id _ frame _ =>
    client = some id ∨ frame.command = .message ∧
      ∃ session, origin.registry.get? id = some session ∧ session.authenticated = true
  | .closed _ _ | .answered _ _ => False

theorem exists_journal_of_act (h : Act setting client broker after) :
    ∃ events, after.journal = broker.journal ++ events ∧
      ∀ event ∈ events, Uttered client broker event := by
  have hsilent : ∀ {after : Broker}, after.journal = broker.journal → ∃ events,
      after.journal = broker.journal ++ events ∧ ∀ event ∈ events, Uttered client broker event :=
    fun hjournal ↦ ⟨[], by rw [hjournal, List.append_nil], by simp⟩
  cases h with
  | named _ _ _ _ _ => exact hsilent rfl
  | bound _ _ _ _ => exact hsilent rfl
  | noted _ _ _ => exact hsilent rfl
  | entered _ _ _ _ => exact hsilent rfl
  | dropped _ _ _ => exact hsilent rfl
  | removed _ _ _ => exact hsilent rfl
  | replied frame hclient =>
    refine ⟨_, rfl, fun event hmem ↦ ?_⟩
    obtain rfl := List.mem_singleton.mp hmem
    exact .inl hclient
  | delivered freeAt hlive hauthenticated hcommand =>
    refine ⟨_, rfl, fun event hmem ↦ ?_⟩
    obtain rfl := List.mem_singleton.mp hmem
    exact .inr ⟨hcommand, _, hlive, hauthenticated⟩
  | @retired id _ => exact hsilent (silent_retire_foldl broker [id]).1

theorem exists_journal_of_acts (h : Acts setting client broker after) :
    ∃ events, after.journal = broker.journal ++ events ∧
      ∀ event ∈ events, Uttered client broker event := by
  induction h with
  | refl => exact ⟨[], by simp, by simp⟩
  | tail hacts hact ih =>
    obtain ⟨earlier, hearlier, huttered⟩ := ih
    obtain ⟨later, hlater, huttered'⟩ := exists_journal_of_act hact
    refine ⟨earlier ++ later, by rw [hlater, hearlier, List.append_assoc], fun event hmem ↦ ?_⟩
    rcases List.mem_append.mp hmem with hmem | hmem
    · exact huttered event hmem
    · have hevent := huttered' event hmem
      cases event with
      | closed _ _ => exact hevent
      | answered _ _ => exact hevent
      | wrote id version frame outcome =>
        rcases hevent with hclient | ⟨hcommand, session, hlive, hauthenticated⟩
        · exact .inl hclient
        by_cases hown : client = some id
        · exact .inl hown
        · exact .inr ⟨hcommand, session, get?_of_acts hacts hown hlive, hauthenticated⟩

theorem extends_of_acts (h : Acts setting client broker after) : Extends broker after := by
  obtain ⟨events, hevents, -⟩ := exists_journal_of_acts h
  exact ⟨events, hevents⟩

/-! ### Deeds -/

/-- One thing that the broker does. -/
inductive Deed (broker : Broker) : Broker → Prop
  | acted {setting : Setting} {client : Option SessionId} {after : Broker} :
    Act setting client broker after → Deed broker after
  | opened {setting : Setting} {id : SessionId} {sink : Sink} :
    broker.session? id = none → Deed broker (broker.openSession setting id sink)
  | answered (id : SessionId) (payload : Bytes) : Deed broker (broker.record (.answered id payload))
  | closed (id : SessionId) : Deed broker (broker.closeSession id)
  | swept : Deed broker broker.closeLeft

/-- Any number of deeds. -/
abbrev Deeds : Broker → Broker → Prop :=
  Relation.ReflTransGen Deed

theorem deeds_of_acts (h : Acts setting client broker after) : Deeds broker after := by
  induction h with
  | refl => exact .refl
  | tail _ hact ih => exact ih.tail (.acted hact)

theorem deeds_closeSession_foldl (ids : List SessionId) :
    Deeds broker (ids.foldl Broker.closeSession broker) := by
  induction ids generalizing broker with
  | nil => exact .refl
  | cons id ids ih => exact .head (.closed id) ih

/-- Every operation is a sequence of deeds. -/
theorem Consistent.deeds_run (h : Consistent broker) (setting : Setting)
    (hfresh : operation.Fresh broker) : Deeds broker (broker.run setting operation) := by
  have hpublished : ∀ message : Message, Deeds broker
      (broker.publish setting message.destination message.contentType message.body).2 := by
    intro message
    have hacts : Acts setting none broker _ := h.acts_publish message
    exact deeds_of_acts hacts
  have hsent : ∀ recipient queue body,
      Deeds broker (broker.sendToQueue setting recipient queue body).2 := by
    intro recipient queue body
    have hacts : Acts setting none broker _ := h.acts_deliverToUser recipient
      (userQueue queue) ⟨userDestination recipient queue, jsonContentType, body⟩
    exact deeds_of_acts hacts
  cases operation with
  | openSession id sink => exact .single (.opened hfresh)
  | handleFrame id frame => exact deeds_of_acts (h.acts_handleFrame id frame)
  | refuse id cause => exact deeds_of_acts (acts_reject _ _)
  | timeOut id => exact deeds_of_acts (acts_reject _ _)
  | answerPing id payload => exact .single (.answered id payload)
  | broadcast destination body => exact hpublished ⟨destination, jsonContentType, body⟩
  | sendToUser recipient body => exact hsent _ _ _
  | sendToQueue recipient queue body => exact hsent _ _ _
  | broadcastNotice body => exact hpublished ⟨Topic.notice, jsonContentType, body⟩
  | broadcastDictionaryChange code =>
    exact hpublished ⟨Topic.dictionary, jsonContentType, dictionaryChange code⟩
  | closeSession id => exact .single (.closed id)
  | closeAll => exact deeds_closeSession_foldl _
  | closeLeft => exact .single .swept

end StompBroker.Broker
