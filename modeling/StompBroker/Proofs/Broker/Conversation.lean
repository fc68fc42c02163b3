import StompBroker.Broker.Transcript
import StompBroker.Proofs.Broker.Closing

/-!
# What a client is told

The frames that a client is written form a `Conversation`: nothing, or one ERROR, or CONNECTED with
messages and receipts behind it and at most one ERROR at the end. As long as its connection goes on,
what it was told is `Ongoing`, and depends on whether its handshake was accepted: before that it is
nothing. Each frame of the client goes on with it or brings it to its end (`Ongoing.handleFrame`),
and the operations of others add messages, for a client that is connected (`exists_tells_foreign`).

A conversation that breaks off somewhere is still one (`Conversation.of_isPrefix`).
-/

set_option autoImplicit false

namespace StompBroker

/-- The operation is not one that the reading half of the session asks for. -/
def Operation.Foreign (id : SessionId) : Operation → Prop
  | handleFrame other _ | refuse other _ | timeOut other | answerPing other _ => other ≠ id
  | _ => True

namespace Broker

variable {setting : Setting} {client : Option SessionId} {operation : Operation}
  {broker middle after : Broker} {id other : SessionId} {session : Session} {frame : Frame}
  {identity next : Option (String × Version)} {frames more : List Frame} {last : Option Frame}

/-! ### Conversations -/

/-- A frame for a client that is connected. -/
def Served (frame : Frame) : Prop := frame.command = .message ∨ frame.command = .receipt

/-- What a client is told from the beginning of its connection. -/
inductive Conversation : List Frame → Prop
  | silent : Conversation []
  | refused {error : Frame} : error.command = .error → Conversation [error]
  | welcomed {connected : Frame} {frames : List Frame} {last : Option Frame} :
    connected.command = .connected → (∀ frame ∈ frames, Served frame) →
      (∀ error ∈ last, error.command = .error) → Conversation (connected :: frames ++ last.toList)

/-- What a client was told that goes on, before and after its handshake. -/
inductive Ongoing : Option (String × Version) → List Frame → Prop
  | awaited : Ongoing none []
  | connected {identity : String × Version} {connected : Frame} {frames : List Frame} :
    connected.command = .connected → (∀ frame ∈ frames, Served frame) →
      Ongoing (some identity) (connected :: frames)

/-- What a client was told once a frame of it was answered. -/
def Answered (identity : Option (String × Version)) (frames : List Frame) : Flow → Prop
  | .continue => Ongoing identity frames
  | .close => Conversation frames

/-- What a frame of a connected client brings. -/
inductive Replied : Flow → List Frame → Prop
  | served {flow : Flow} {frames : List Frame} :
    (∀ frame ∈ frames, Served frame) → Replied flow frames
  | failed {last : Option Frame} :
    (∀ error ∈ last, error.command = .error) → Replied .close last.toList

theorem Ongoing.fail (h : Ongoing identity frames)
    (hlast : ∀ error ∈ last, error.command = .error) :
    Conversation (frames ++ last.toList) := by
  cases h with
  | awaited =>
    cases last with
    | none => exact .silent
    | some error => exact .refused (hlast error rfl)
  | connected hconnected hserved => exact .welcomed hconnected hserved hlast

theorem conversation_cons {connected : Frame} (hconnected : connected.command = .connected)
    (hserved : ∀ frame ∈ frames, Served frame) : Conversation (connected :: frames) := by
  have hwelcomed := Conversation.welcomed hconnected hserved
    fun error (hmem : error ∈ none) ↦ by cases hmem
  rwa [Option.toList_none, List.append_nil] at hwelcomed

theorem Ongoing.conversation (h : Ongoing identity frames) : Conversation frames := by
  cases h with
  | awaited => exact .silent
  | connected hconnected hserved => exact conversation_cons hconnected hserved

theorem Ongoing.served (h : Ongoing identity frames) (hidentity : identity ≠ none)
    (hnext : next ≠ none) (hmore : ∀ frame ∈ more, Served frame) :
    Ongoing next (frames ++ more) := by
  obtain ⟨settled, rfl⟩ := Option.ne_none_iff_exists'.mp hnext
  cases h with
  | awaited => exact absurd rfl hidentity
  | connected hconnected hserved =>
    refine .connected hconnected fun frame hmem ↦ ?_
    rcases List.mem_append.mp hmem with hmem | hmem
    · exact hserved frame hmem
    · exact hmore frame hmem

theorem Ongoing.replied {flow : Flow} (h : Ongoing identity frames) (hidentity : identity ≠ none)
    (hnext : next ≠ none) (hreplied : Replied flow more) : Answered next (frames ++ more) flow := by
  cases hreplied with
  | served hserved =>
    have hongoing := h.served hidentity hnext hserved
    cases flow with
    | «continue» => exact hongoing
    | close => exact hongoing.conversation
  | failed hlast => exact h.fail hlast

theorem Answered.conversation {flow : Flow} (h : Answered identity frames flow) :
    Conversation frames := by
  cases flow with
  | «continue» => exact Ongoing.conversation h
  | close => exact h

/-- Who is told the beginning of a conversation is told a conversation. -/
theorem Conversation.of_isPrefix {front : List Frame} (h : Conversation frames)
    (hwithin : front <+: frames) : Conversation front := by
  cases h with
  | silent =>
    rw [List.prefix_nil.mp hwithin]
    exact .silent
  | @refused error herror =>
    rcases List.prefix_cons_iff.mp hwithin with rfl | ⟨none, rfl, hnone⟩
    · exact .silent
    · rw [List.prefix_nil.mp hnone]
      exact .refused herror
  | @welcomed connected frames last hconnected hserved hlast =>
    cases front with
    | nil => exact .silent
    | cons first front =>
      rw [List.cons_append, List.cons_prefix_cons] at hwithin
      obtain ⟨rfl, hwithin⟩ := hwithin
      have hshorter : ∀ {shorter : List Frame}, shorter <+: frames →
          Conversation (first :: shorter) := fun hshorter ↦
        conversation_cons hconnected fun frame hmem ↦ hserved frame (hshorter.subset hmem)
      cases last with
      | none =>
        rw [Option.toList_none, List.append_nil] at hwithin
        exact hshorter hwithin
      | some error =>
        rcases List.prefix_concat_iff.mp hwithin with rfl | hwithin
        · exact .welcomed hconnected hserved hlast
        · exact hshorter hwithin

/-! ### Telling -/

/-- The frames that a client was written. -/
def told (events : List Event) (id : SessionId) : List Frame :=
  (Transcript.framesOf events id).map Written.frame

theorem told_append (events more : List Event) :
    told (events ++ more) id = told events id ++ told more id := by
  simp only [told, Transcript.framesOf, List.filterMap_append, List.map_append]

/-- From one broker to the other a client is told these frames. -/
def Tells (broker after : Broker) (id : SessionId) (frames : List Frame) : Prop :=
  ∃ events, after.journal = broker.journal ++ events ∧ told events id = frames

theorem tells_of_journal_eq (h : after.journal = broker.journal) : Tells broker after id [] :=
  ⟨[], by rw [h, List.append_nil], rfl⟩

theorem Tells.trans (h : Tells broker middle id frames) (h' : Tells middle after id more) :
    Tells broker after id (frames ++ more) := by
  obtain ⟨events, hevents, rfl⟩ := h
  obtain ⟨later, hlater, rfl⟩ := h'
  exact ⟨events ++ later, by rw [hlater, hevents, List.append_assoc], told_append events later⟩

theorem Tells.silent (h : Tells broker middle id frames) (h' : Tells middle after id []) :
    Tells broker after id frames := by
  have hboth := h.trans h'
  rwa [List.append_nil] at hboth

/-- Whoever stands on the way was told the beginning. -/
theorem Tells.of_extends (h : Tells broker after id frames) (hmiddle : Extends broker middle)
    (hafter : Extends middle after) : ∃ front, Tells broker middle id front ∧ front <+: frames := by
  obtain ⟨events, hevents, rfl⟩ := h
  obtain ⟨earlier, hearlier⟩ := hmiddle
  obtain ⟨later, hlater⟩ := hafter
  have hboth : events = earlier ++ later := by
    rw [hlater, hearlier, List.append_assoc] at hevents
    exact (List.append_cancel_left hevents).symm
  refine ⟨told earlier id, ⟨earlier, hearlier, rfl⟩, told later id, ?_⟩
  rw [hboth, told_append]

theorem tells_send (setting : Setting) (broker : Broker) (session : Session) (frame : Frame) :
    Tells broker (broker.send setting session frame).2 session.id
      (if (broker.send setting session frame).1 = .written then [frame] else []) := by
  refine ⟨_, rfl, ?_⟩
  change told [.wrote session.id session.version frame (broker.send setting session frame).1]
    session.id = _
  cases (broker.send setting session frame).1 with
  | written => simp [told, Transcript.framesOf]
  | refused reason => rfl
  | timedOut => rfl

theorem flow_reject (setting : Setting) (broker : Broker) (id : SessionId) (text : String)
    (detail : Option String) : (broker.reject setting id text detail).1 = .close := by
  unfold reject
  split <;> rfl

theorem exists_tells_reject (setting : Setting) (broker : Broker) (id : SessionId) (text : String)
    (detail : Option String) :
    ∃ last : Option Frame, (∀ error ∈ last, error.command = .error) ∧
      Tells broker (broker.reject setting id text detail).2 id last.toList := by
  unfold reject
  cases hlive : broker.registry.get? id with
  | none => exact ⟨none, by simp, tells_of_journal_eq rfl⟩
  | some session =>
    obtain rfl := Registry.id_of_get? hlive
    have htells := tells_send setting broker session (.error text detail)
    split at htells
    · refine ⟨some (.error text detail), fun error hmem ↦ ?_, htells⟩
      obtain rfl := Option.some.inj hmem
      cases detail <;> rfl
    · exact ⟨none, by simp, htells⟩

theorem exists_tells_sendReceipt (setting : Setting) (broker : Broker) (session : Session)
    (frame : Frame) :
    ∃ more, (∀ receipt ∈ more, Served receipt) ∧
      Tells broker (broker.sendReceipt setting session frame) session.id more := by
  unfold sendReceipt
  cases frame.header? Header.receipt with
  | none => exact ⟨[], by simp, tells_of_journal_eq rfl⟩
  | some name =>
    have htells := tells_send setting broker session (.receipt name)
    split at htells
    · refine ⟨_, fun receipt hmem ↦ ?_, htells⟩
      obtain rfl := List.mem_singleton.mp hmem
      exact .inr rfl
    · exact ⟨_, by simp, htells⟩

/-- Acts for somebody else tell a client messages, if it is live and authenticated. -/
theorem exists_tells_acts (h : Acts setting client broker after) (hne : client ≠ some id) :
    ∃ more, Tells broker after id more ∧ ∀ frame ∈ more, frame.command = .message ∧
      ∃ session, broker.registry.get? id = some session ∧ session.authenticated = true := by
  obtain ⟨events, hevents, huttered⟩ := exists_journal_of_acts h
  refine ⟨told events id, ⟨events, hevents, rfl⟩, fun frame hmem ↦ ?_⟩
  obtain ⟨written, hwritten, rfl⟩ := List.mem_map.mp hmem
  obtain ⟨event, hevent, htold⟩ := List.mem_filterMap.mp hwritten
  have hcause := huttered event hevent
  cases event with
  | closed _ _ => cases htold
  | answered _ _ => cases htold
  | wrote written version frame outcome =>
    cases outcome with
    | refused _ => cases htold
    | timedOut => cases htold
    | written =>
      simp only [Option.ite_none_right_eq_some, Option.some.injEq] at htold
      obtain ⟨rfl, rfl⟩ := htold
      exact hcause.resolve_left hne

/-! ### Frames of the client -/

theorem journal_of_handleSubscribe (h : broker.handleSubscribe session frame = .ok after) :
    after.journal = broker.journal := by
  unfold handleSubscribe at h
  split at h
  · cases h
  split at h
  · cases h
  split at h
  · cases h
    rfl
  split at h <;> cases h
  rfl

theorem journal_of_handleUnsubscribe (h : broker.handleUnsubscribe session frame = .ok after) :
    after.journal = broker.journal := by
  unfold handleUnsubscribe at h
  split at h
  · cases h
  split at h <;> cases h <;> rfl

/-- A handshake is the beginning of a conversation, or is refused. -/
theorem exists_answered_handleConnect (hlive : broker.registry.get? session.id = some session) :
    ∃ more, Tells broker (broker.handleConnect setting session frame).2 session.id more ∧
      Answered ((broker.handleConnect setting session frame).2.identity? session.id) more
        (broker.handleConnect setting session frame).1 := by
  have hrejected : ∀ text, ∃ more,
      Tells broker (broker.reject setting session.id text none).2 session.id more ∧
        Conversation more := by
    intro text
    obtain ⟨last, hlast, htells⟩ := exists_tells_reject setting broker session.id text none
    exact ⟨last.toList, htells, Ongoing.awaited.fail hlast⟩
  unfold handleConnect
  split
  · rw [flow_reject]
    exact hrejected _
  rename_i version _
  split
  · rw [flow_reject]
    exact hrejected _
  · rw [flow_reject]
    exact hrejected _
  rename_i claims _
  split
  · exact ⟨[], tells_of_journal_eq rfl, .silent⟩
  rename_i middle henrol
  have hid : (session.authenticate claims.username version).id = session.id := rfl
  have hjournal : middle.journal = broker.journal := by
    obtain ⟨registry, -, rfl⟩ := enrol_eq_ok_iff.mp henrol
    rfl
  have hidentity : middle.identity? session.id = some (claims.username, version) :=
    (identity?_enrol hlive henrol).trans (if_pos rfl)
  have htells := tells_send setting middle (session.authenticate claims.username version)
    (.connected version session.id.text)
  have hkept : (middle.send setting (session.authenticate claims.username version)
      (.connected version session.id.text)).2.identity? session.id =
        some (claims.username, version) := identity?_send.trans hidentity
  rcases hsend : middle.send setting (session.authenticate claims.username version)
    (.connected version session.id.text) with ⟨outcome, greeted⟩
  rw [hsend] at htells hkept
  simp only [hid, hsend]
  cases outcome with
  | written =>
    obtain ⟨receipts, hserved, hreceipts⟩ := exists_tells_sendReceipt setting greeted
      (session.authenticate claims.username version) frame
    refine ⟨_, (tells_of_journal_eq hjournal).trans (htells.trans hreceipts), ?_⟩
    simp only
    rw [identity?_sendReceipt, hkept]
    exact .connected rfl hserved
  | refused reason => exact ⟨_, (tells_of_journal_eq hjournal).trans htells, .silent⟩
  | timedOut => exact ⟨_, (tells_of_journal_eq hjournal).trans htells, .silent⟩

theorem exists_replied_sendReceipt {handled : Broker}
    (h : Tells broker handled session.id more) (hserved : ∀ frame ∈ more, Served frame) :
    ∃ all, Tells broker (handled.sendReceipt setting session frame) session.id all ∧
      ∀ flow, Replied flow all := by
  obtain ⟨receipts, hreceipts, htells⟩ := exists_tells_sendReceipt setting handled session frame
  refine ⟨_, h.trans htells, fun flow ↦ .served fun frame hmem ↦ ?_⟩
  rcases List.mem_append.mp hmem with hmem | hmem
  · exact hserved frame hmem
  · exact hreceipts frame hmem

theorem exists_replied_settle {result : Except Failure Broker}
    (h : ∀ handled, result = .ok handled →
      ∃ more, Tells broker handled session.id more ∧ ∀ frame ∈ more, Served frame) :
    ∃ all, Tells broker (broker.settle setting session frame result).2 session.id all ∧
      Replied (broker.settle setting session frame result).1 all := by
  cases result with
  | ok handled =>
    obtain ⟨more, htells, hserved⟩ := h handled rfl
    obtain ⟨all, hall, hreplied⟩ := exists_replied_sendReceipt htells hserved
    exact ⟨all, hall, hreplied _⟩
  | error failure =>
    obtain ⟨last, hlast, htells⟩ := exists_tells_reject setting broker session.id
      "Protocol error" (some (protocolDetail failure))
    refine ⟨last.toList, htells, ?_⟩
    rw [settle, protocolError, flow_reject]
    exact .failed hlast

theorem exists_replied_handleAuthenticated (h : Consistent broker) :
    ∃ all, Tells broker (broker.handleAuthenticated setting session frame).2 session.id all ∧
      Replied (broker.handleAuthenticated setting session frame).1 all := by
  have hsilent : ∀ {handled : Broker}, handled.journal = broker.journal →
      ∃ more, Tells broker handled session.id more ∧ ∀ frame ∈ more, Served frame :=
    fun hjournal ↦ ⟨[], tells_of_journal_eq hjournal, by simp⟩
  have hignored : ∃ all, Tells broker (broker.settle setting session frame (.ok broker)).2
      session.id all ∧ Replied (broker.settle setting session frame (.ok broker)).1 all := by
    refine exists_replied_settle fun handled hok ↦ ?_
    cases hok
    exact hsilent rfl
  have hfailed : ∀ failure, ∃ all,
      Tells broker (broker.settle setting session frame (.error failure)).2 session.id all ∧
        Replied (broker.settle setting session frame (.error failure)).1 all := by
    intro failure
    exact exists_replied_settle fun handled hok ↦ by cases hok
  unfold handleAuthenticated
  split
  · exact exists_replied_settle fun _ hok ↦ hsilent (journal_of_handleSubscribe hok)
  · exact exists_replied_settle fun _ hok ↦ hsilent (journal_of_handleUnsubscribe hok)
  · refine exists_replied_settle fun handled hok ↦ ?_
    -- A SEND writes to its own client as it writes to everybody.
    have hacts : Acts setting none broker handled := h.acts_handleSend hok
    obtain ⟨more, htells, hmessages⟩ :=
      exists_tells_acts hacts (Option.some_ne_none session.id).symm
    exact ⟨more, htells, fun frame hmem ↦ .inl (hmessages frame hmem).1⟩
  · obtain ⟨all, htells, hreplied⟩ := exists_replied_sendReceipt
      (tells_of_journal_eq (Eq.refl broker.journal)) (by simp)
    exact ⟨all, htells, hreplied _⟩
  · exact hignored
  · exact hignored
  · exact hignored
  · exact hignored
  · exact hignored
  all_goals exact hfailed _

/-- A frame of the client goes on with its conversation, or ends it. -/
theorem Ongoing.handleFrame (h : Ongoing (broker.identity? id) frames)
    (hconsistent : Consistent broker) (setting : Setting) (frame : Frame) :
    ∃ more, Tells broker (broker.handleFrame setting id frame).2 id more ∧
      Answered ((broker.handleFrame setting id frame).2.identity? id) (frames ++ more)
        (broker.handleFrame setting id frame).1 := by
  have hrejected : ∀ {failure : Failure}, ∃ more,
      Tells broker (broker.protocolError setting id failure).2 id more ∧
        Answered ((broker.protocolError setting id failure).2.identity? id) (frames ++ more)
          (broker.protocolError setting id failure).1 := by
    intro failure
    obtain ⟨last, hlast, htells⟩ := exists_tells_reject setting broker id
      "Protocol error" (some (protocolDetail failure))
    refine ⟨last.toList, htells, ?_⟩
    rw [protocolError, flow_reject]
    exact h.fail hlast
  have hlasting : broker.identity? id ≠ none →
      (broker.handleFrame setting id frame).2.identity? id ≠ none := by
    intro hidentity
    have hfresh : (Operation.handleFrame id frame).Fresh broker := trivial
    rcases identity?_run setting hconsistent hfresh id with hkept | ⟨_, _, _, -, -, -, hsettled⟩
    · exact hkept ▸ hidentity
    · intro hnone
      cases hsettled.symm.trans hnone
  unfold Broker.handleFrame at hlasting ⊢
  cases hlive : broker.registry.get? id with
  | none => exact ⟨[], tells_of_journal_eq rfl, by
      rw [List.append_nil]
      exact h.conversation⟩
  | some session =>
    obtain rfl := Registry.id_of_get? hlive
    rw [hlive] at hlasting
    simp only at hlasting ⊢
    split
    · exact hrejected
    rename_i hserver
    rw [if_neg hserver] at hlasting
    have hidentity := identity?_of_get? hlive
    split
    · rename_i hauthenticated
      rw [if_pos hauthenticated] at hlasting
      have hknown : broker.identity? session.id ≠ none := by
        rw [hidentity, Session.identity?, if_pos hauthenticated]
        exact Option.some_ne_none _
      obtain ⟨more, htells, hreplied⟩ := exists_replied_handleAuthenticated hconsistent
      exact ⟨more, htells, h.replied hknown (hlasting hknown) hreplied⟩
    · rename_i hnew
      split
      · rw [hidentity, Session.identity?, if_neg hnew] at h
        cases h
        exact exists_answered_handleConnect hlive
      · exact hrejected

/-! ### Operations of others -/

theorem tells_closeSession (other : SessionId) :
    Tells broker (broker.closeSession other) id [] := by
  unfold closeSession
  cases hlive : broker.registry.get? other with
  | none =>
    rw [detach_of_none hlive]
    exact tells_of_journal_eq rfl
  | some session =>
    rw [detach_of_some hlive]
    exact ⟨_, rfl, rfl⟩

theorem tells_foldl {step : Broker → SessionId → Broker}
    (hstep : ∀ broker other, Tells broker (step broker other) id []) (ids : List SessionId) :
    Tells broker (ids.foldl step broker) id [] := by
  induction ids generalizing broker with
  | nil => exact tells_of_journal_eq rfl
  | cons other ids ih => exact (hstep broker other).trans ih

/-- Others tell a client messages, if it is live and authenticated. -/
theorem exists_tells_foreign (h : Consistent broker) (setting : Setting)
    (hforeign : operation.Foreign id) :
    ∃ more, Tells broker (broker.run setting operation) id more ∧
      ∀ frame ∈ more, frame.command = .message ∧
        ∃ session, broker.registry.get? id = some session ∧ session.authenticated = true := by
  have hsilent : ∀ {after : Broker}, Tells broker after id [] → ∃ more,
      Tells broker after id more ∧ ∀ frame ∈ more, frame.command = .message ∧
        ∃ session, broker.registry.get? id = some session ∧ session.authenticated = true :=
    fun htells ↦ ⟨[], htells, by simp⟩
  have hanonymous : (none : Option SessionId) ≠ some id := (Option.some_ne_none id).symm
  have hpublished : ∀ message : Message, _ := fun message ↦
    exists_tells_acts (h.acts_publish message : Acts setting none broker _) hanonymous
  have hsent : ∀ recipient queue body, _ := fun recipient queue body ↦
    exists_tells_acts (h.acts_deliverToUser recipient (userQueue queue)
      ⟨userDestination recipient queue, jsonContentType, body⟩ : Acts setting none broker _)
      hanonymous
  have hother : ∀ {other : SessionId}, other ≠ id → some other ≠ some id :=
    fun hne heq ↦ hne (Option.some.inj heq)
  cases operation with
  | openSession other sink => exact hsilent (tells_of_journal_eq rfl)
  | handleFrame other frame =>
    exact exists_tells_acts (h.acts_handleFrame other frame) (hother hforeign)
  | refuse other cause => exact exists_tells_acts (acts_reject _ _) (hother hforeign)
  | timeOut other => exact exists_tells_acts (acts_reject _ _) (hother hforeign)
  | answerPing other payload => exact hsilent ⟨_, rfl, rfl⟩
  | broadcast destination body => exact hpublished ⟨destination, jsonContentType, body⟩
  | sendToUser recipient body => exact hsent recipient Topic.greeting body
  | sendToQueue recipient queue body => exact hsent recipient queue body
  | broadcastNotice body => exact hpublished ⟨Topic.notice, jsonContentType, body⟩
  | broadcastDictionaryChange code =>
    exact hpublished ⟨Topic.dictionary, jsonContentType, dictionaryChange code⟩
  | closeSession other => exact hsilent (tells_closeSession other)
  | closeAll => exact hsilent (tells_foldl (fun _ other ↦ tells_closeSession other) _)
  | closeLeft =>
    have hwaiting : Tells broker { broker with closing := [] } id [] := tells_of_journal_eq rfl
    exact hsilent (hwaiting.trans (tells_foldl (fun _ _ ↦ ⟨_, rfl, rfl⟩) _))

/-- Others leave the record of a session as it is, or take it out. -/
theorem get?_of_foreign (hfresh : operation.Fresh broker)
    (hforeign : operation.Foreign id) (hrecord : broker.session? id ≠ none)
    (hlive : (broker.run setting operation).registry.get? id = some session) :
    broker.registry.get? id = some session := by
  obtain ⟨middle, hchange, houtputs⟩ := exists_change_outputs setting broker operation hfresh
  have hmiddle : middle.registry.get? id = some session := by
    generalize broker.run setting operation = after at houtputs hlive
    induction houtputs with
    | refl => exact hlive
    | tail _ houtput ih => exact ih (get?_of_output houtput hlive)
  obtain rfl := Registry.id_of_get? hmiddle
  cases recorded_of_change hchange hmiddle with
  | kept hbefore => exact hbefore
  | opened hoperation _ =>
    subst hoperation
    exact absurd hfresh hrecord
  | enrolled _ _ hoperation _ _ =>
    subst hoperation
    exact absurd rfl hforeign
  | subscribed _ hoperation _ _ _ _ =>
    subst hoperation
    exact absurd rfl hforeign
  | unsubscribed _ hoperation _ =>
    subst hoperation
    exact absurd rfl hforeign

/-- Others cannot give a session an identity. -/
theorem identity?_of_foreign (h : Consistent broker) (hfresh : operation.Fresh broker)
    (hforeign : operation.Foreign id) :
    (broker.run setting operation).identity? id = broker.identity? id := by
  rcases identity?_run setting h hfresh id with hkept | ⟨_, _, _, rfl, -⟩
  · exact hkept
  · exact absurd rfl hforeign

/-- Whatever others do, what a client is told goes on. -/
theorem Ongoing.foreign (h : Ongoing (broker.identity? id) frames) (hconsistent : Consistent broker)
    (hfresh : operation.Fresh broker) (hforeign : operation.Foreign id) :
    ∃ more, Tells broker (broker.run setting operation) id more ∧
      Ongoing ((broker.run setting operation).identity? id) (frames ++ more) := by
  obtain ⟨more, htells, hmessages⟩ := exists_tells_foreign hconsistent setting hforeign
  refine ⟨more, htells, ?_⟩
  rw [identity?_of_foreign hconsistent hfresh hforeign]
  cases more with
  | nil =>
    rw [List.append_nil]
    exact h
  | cons message more =>
    obtain ⟨-, session, hlive, hauthenticated⟩ := hmessages message List.mem_cons_self
    have hknown : broker.identity? id ≠ none := by
      rw [identity?_of_get? hlive, Session.identity?, if_pos hauthenticated]
      exact Option.some_ne_none _
    exact h.served hknown hknown fun frame hmem ↦ .inl (hmessages frame hmem).1

end Broker

end StompBroker
