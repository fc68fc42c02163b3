import StompBroker.Proofs.Broker.Operation
import StompBroker.Proofs.Destination

/-!
# Every operation is a change and its output

Each handler of the broker is taken apart into the one `Change` that it makes, if any, and the
`Outputs` that follow (`exists_change_outputs`). Deliveries and rejections only give output
(`outputs_deliver`, `outputs_reject`); so do receipts, which a session gets under its id and in its
version even if a delivery has just taken it out (`outputs_sendReceipt`). What changes and output
keep holds of every reachable broker (`Reachable.invariant`), and of all that comes later than a
broker of which it holds (`Later.invariant`).
-/

set_option autoImplicit false

namespace StompBroker.Broker

variable {setting : Setting} {operation : Operation} {origin broker : Broker}

/-! ### Closing -/

theorem outputs_retire (id : SessionId) :
    Outputs setting operation origin broker (broker.retire id) := by
  have hdetached : Output setting operation origin broker (broker.detach id).2 := .detached id
  unfold retire
  rcases hdetach : broker.detach id with ⟨live, detached⟩
  rw [hdetach] at hdetached
  cases live with
  | false => exact .single hdetached
  | true => exact .tail (.single hdetached) (.postponed _)

theorem outputs_closeSession (id : SessionId) :
    Outputs setting operation origin broker (broker.closeSession id) := by
  have hdetached : Output setting operation origin broker (broker.detach id).2 := .detached id
  unfold closeSession
  rcases hdetach : broker.detach id with ⟨live, detached⟩
  rw [hdetach] at hdetached
  cases live with
  | false => exact .single hdetached
  | true => exact .tail (.single hdetached) (.closed id)

/-- Output for one id after the other is output. -/
theorem outputs_foldl {step : Broker → SessionId → Broker}
    (hstep : ∀ broker id, Outputs setting operation origin broker (step broker id))
    (ids : List SessionId) : Outputs setting operation origin broker (ids.foldl step broker) := by
  induction ids generalizing broker with
  | nil => exact .refl
  | cons id ids ih => exact (hstep broker id).trans ih

/-! ### Writing -/

theorem outputs_reject {id : SessionId} {message : String} (detail : Option String)
    (h : message ∈ refusals) :
    Outputs setting operation broker broker (broker.reject setting id message detail).2 := by
  unfold reject
  cases hget : broker.registry.get? id with
  | none => exact .refl
  | some session =>
    have hlive : broker.registry.get? session.id = some session := by
      rw [Registry.id_of_get? hget]
      exact hget
    exact .single (.replied hlive (.error detail h))

theorem outputs_protocolError (id : SessionId) (failure : Failure) :
    Outputs setting operation broker broker (broker.protocolError setting id failure).2 :=
  outputs_reject _ (by simp [refusals])

/-- A session is sent to under its id and in its version, whatever else is known of it. -/
theorem send_congr {session other : Session} (hid : session.id = other.id)
    (hversion : session.version = other.version) (frame : Frame) :
    broker.send setting session frame = broker.send setting other frame := by
  unfold send
  rw [hid, hversion]

theorem outputs_sendReceipt (live : Session) {session : Session} {frame : Frame}
    (hlive : origin.registry.get? live.id = some live) (hid : session.id = live.id)
    (hversion : session.version = live.version)
    (hoperation : operation = .handleFrame session.id frame) :
    Outputs setting operation origin broker (broker.sendReceipt setting session frame) := by
  unfold sendReceipt
  cases hreceipt : frame.header? Header.receipt with
  | none => exact .refl
  | some receipt =>
    simp only
    rw [send_congr hid hversion]
    rw [hid] at hoperation
    exact .single (.replied hlive (.receipt hoperation hreceipt))

/-- A message to targets that it is addressed to is output, wherever it stands by then. -/
theorem outputs_deliver_fold {destination contentType : String} {body : Bytes}
    {targets : List (Session × String)} (fanout : Fanout)
    (h : ∀ target ∈ targets, origin.registry.get? target.1.id = some target.1 ∧
      Addressed origin target.1 destination target.2) :
    Outputs setting operation origin fanout.broker
      (targets.foldl (deliverTo setting destination contentType body) fanout).broker := by
  induction targets generalizing fanout with
  | nil => exact .refl
  | cons target targets ih =>
    obtain ⟨hlive, haddressed⟩ := h target List.mem_cons_self
    have hstep : Output setting operation origin fanout.broker
        (deliverTo setting destination contentType body fanout target).broker := by
      have hwritten : (deliverTo setting destination contentType body fanout target).broker =
          ({ fanout.broker with nextMessageId := fanout.broker.nextMessageId + 1 }.write
            target.1.id target.1.version
            (.message destination target.2 (toString fanout.broker.nextMessageId) contentType body)
            ((fanout.busy.lookup target.1.id).getD 0) setting.writeTimeout).2.2 := by
        unfold deliverTo
        simp only
        split <;> rfl
      rw [hwritten]
      exact .delivered contentType body _ hlive haddressed
    exact .head hstep (ih _ fun other hmem ↦ h other (List.mem_cons_of_mem _ hmem))

theorem outputs_deliver {subscribers : List Subscriber} {destination contentType : String}
    {body : Bytes}
    (h : ∀ subscriber ∈ subscribers, ∀ session,
      broker.registry.get? subscriber.session = some session →
        Addressed broker session destination subscriber.subscription) :
    Outputs setting operation broker broker
      (broker.deliver setting subscribers destination contentType body).2 := by
  unfold deliver
  refine .trans (outputs_deliver_fold { broker := broker } fun target hmem ↦ ?_)
    (outputs_foldl (fun _ id ↦ outputs_retire id) _)
  obtain ⟨subscriber, hsubscriber, htarget⟩ := List.mem_filterMap.mp hmem
  obtain ⟨session, hsession, rfl⟩ := Option.map_eq_some_iff.mp htarget
  refine ⟨?_, h subscriber hsubscriber session hsession⟩
  rw [Registry.id_of_get? hsession]
  exact hsession

theorem outputs_publish (destination contentType : String) (body : Bytes) :
    Outputs setting operation broker broker
      (broker.publish setting destination contentType body).2 := by
  refine outputs_deliver fun subscriber hmem session hsession ↦ ?_
  refine ⟨destination, ?_, .inl rfl⟩
  rw [Registry.id_of_get? hsession]
  exact SubscriptionTable.mem_entries_of_mem_subscribers hmem

theorem outputs_deliverToUser (recipient queue contentType : String) (body : Bytes) :
    Outputs setting operation broker broker
      (broker.deliverToUser setting recipient (userQueue queue) (userDestination recipient queue)
        contentType body).2 := by
  refine outputs_deliver fun subscriber hmem session hsession ↦ ?_
  obtain ⟨hsubscriber, howned⟩ := List.mem_filter.mp hmem
  refine ⟨userQueue queue, ?_, .inr ⟨recipient, queue, rfl, rfl, ?_⟩⟩
  · rw [Registry.id_of_get? hsession]
    exact SubscriptionTable.mem_entries_of_mem_subscribers hsubscriber
  · obtain ⟨owned, hmem, hid⟩ := List.mem_map.mp (of_decide_eq_true howned)
    obtain ⟨-, hlisted⟩ := Registry.listed_of_mem_sessionsFor hmem
    rw [Registry.id_of_get? hsession, ← hid]
    exact hlisted

theorem outputs_publishFor (publication : Publication) :
    Outputs setting operation broker broker (broker.publishFor setting publication).2 := by
  cases publication with
  | broadcast destination body => exact outputs_publish _ _ _
  | toUser recipient queue body => exact outputs_deliverToUser _ _ _ _

theorem outputs_dispatch (session : Session) (destination : String) (body : Bytes) :
    Outputs setting operation broker broker (broker.dispatch setting session destination body) := by
  unfold dispatch
  split
  · exact .refl
  · simp only
    split
    · exact .refl
    · exact outputs_publishFor _

/-- A SEND that is accepted only gives output. -/
theorem outputs_handleSend {session : Session} {frame : Frame} {after : Broker}
    (h : broker.handleSend setting session frame = .ok after) :
    Outputs setting operation broker broker after := by
  unfold handleSend at h
  split at h
  · cases h
  · simp only at h
    split at h
    · cases h
      exact outputs_dispatch _ _ _
    · cases h
      exact outputs_publish _ _ _
    · cases h
      exact outputs_publish _ _ _
    · rename_i hparse
      cases h
      obtain ⟨queue, rfl, rfl⟩ := Destination.parse_eq_userScoped hparse
      exact outputs_deliverToUser _ _ _ _
    · cases h
      exact .refl
    · cases h
      exact .refl

/-! ### Frames of a client -/

theorem handleFrame_of_server {session : Session} {frame : Frame}
    (hserver : frame.command.isServerCommand = true)
    (hlive : broker.registry.get? session.id = some session) :
    broker.handleFrame setting session.id frame =
      broker.protocolError setting session.id (serverFrame frame.command) := by
  rw [handleFrame, hlive]
  simp only [hserver, if_true]

theorem handleFrame_of_authenticated {session : Session} {frame : Frame}
    (hserver : frame.command.isServerCommand = false)
    (hlive : broker.registry.get? session.id = some session)
    (hauthenticated : session.authenticated = true) :
    broker.handleFrame setting session.id frame =
      broker.handleAuthenticated setting session frame := by
  rw [handleFrame, hlive]
  simp only [hserver, hauthenticated, Bool.false_eq_true, if_false, if_true]

theorem handleFrame_of_connect {session : Session} {frame : Frame}
    (hcommand : frame.command = .connect ∨ frame.command = .stomp)
    (hlive : broker.registry.get? session.id = some session)
    (hnew : session.authenticated = false) :
    broker.handleFrame setting session.id frame = broker.handleConnect setting session frame := by
  rw [handleFrame, hlive]
  rcases hcommand with hcommand | hcommand <;>
    simp [hcommand, hnew, Command.isServerCommand, Command.isConnectFamily]

/-- A key stands for itself, and the own form of a private queue for the shared one. -/
theorem subscriptionKey?_eq_some_iff {username destination key : String} :
    subscriptionKey? username destination = some key ↔
      Destination.IsKey destination ∧ key = destination ∨
        Destination.parse destination = .userScoped username key := by
  rw [Destination.isKey_iff_parse]
  unfold subscriptionKey?
  cases hparse : Destination.parse destination with
  | topic path =>
    obtain rfl := Destination.parse_eq_topic hparse
    simp [eq_comm]
  | queue path =>
    obtain rfl := Destination.parse_eq_queue hparse
    simp [eq_comm]
  | userQueue path =>
    obtain rfl := Destination.parse_eq_userQueue hparse
    simp [eq_comm]
  | userScoped owner canonical => simp
  | app path => simp
  | other path => simp

/-- An accepted handshake changes the record of its session and lists it under the user. -/
theorem enrol_eq_ok_iff {session : Session} {username : String} {version : Version}
    {after : Broker} :
    broker.enrol session username version = .ok after ↔
      ∃ registry, (broker.registry.update session.id (·.authenticate username version)).bind
        session.id username = .ok registry ∧ { broker with registry } = after := by
  unfold enrol
  simp only
  cases hbind : (broker.registry.update session.id (·.authenticate username version)).bind
    session.id username with
  | error failure => simp [Except.map]
  | ok registry => simp [Except.map]

theorem get?_of_enrol {session : Session} {username : String} {version : Version} {after : Broker}
    (hlive : broker.registry.get? session.id = some session)
    (h : broker.enrol session username version = .ok after) :
    after.registry.get? session.id = some (session.authenticate username version) := by
  obtain ⟨registry, hbind, rfl⟩ := enrol_eq_ok_iff.mp h
  simp only
  rw [Registry.get?_of_bind hbind]
  exact Registry.get?_update_self (fun _ hid ↦ hid) hlive

/-- A handshake with an acceptable version and a good token is answered with CONNECTED. -/
theorem handleConnect_of_parse {session : Session} {frame : Frame} {version : Version}
    {token : String} {claims : Claims} {after : Broker}
    (hversion : Version.negotiate (frame.header? Header.acceptVersion) = some version)
    (htoken : connectToken? frame = some token)
    (hparse : setting.auth.parse setting.clock token = .ok claims)
    (henrol : broker.enrol session claims.username version = .ok after) :
    broker.handleConnect setting session frame =
      match after.send setting (session.authenticate claims.username version)
          (.connected version session.id.text) with
      | (.written, broker) =>
        (.continue,
          broker.sendReceipt setting (session.authenticate claims.username version) frame)
      | (_, broker) => (.close, broker) := by
  rw [handleConnect, hversion, htoken]
  simp only [Option.map_some, hparse, henrol]
  rfl

/-- A handshake enrols the session, or is only answered. -/
theorem exists_change_outputs_handleConnect {session : Session} {frame : Frame}
    (hlive : broker.registry.get? session.id = some session)
    (hnew : session.authenticated = false)
    (hcommand : frame.command = .connect ∨ frame.command = .stomp) :
    ∃ middle, Change setting (.handleFrame session.id frame) broker middle ∧
      Outputs setting (.handleFrame session.id frame) middle middle
        (broker.handleConnect setting session frame).2 := by
  unfold handleConnect
  split
  · exact ⟨broker, .none, outputs_reject _ (by simp [refusals])⟩
  · rename_i version hversion
    split
    · exact ⟨broker, .none, outputs_reject _ (by simp [refusals])⟩
    · exact ⟨broker, .none, outputs_reject _ (by simp [refusals])⟩
    · rename_i claims hparse
      obtain ⟨token, htoken, hclaims⟩ := Option.map_eq_some_iff.mp hparse
      split
      · exact ⟨broker, .none, .refl⟩
      · rename_i middle henrol
        refine ⟨middle, .enrolled hlive hnew rfl hcommand hversion htoken hclaims henrol, ?_⟩
        have hmiddle := get?_of_enrol hlive henrol
        have hconnected : Output setting (.handleFrame session.id frame) middle middle
            (middle.send setting (session.authenticate claims.username version)
              (.connected version session.id.text)).2 := .replied hmiddle .connected
        rcases hsend : middle.send setting (session.authenticate claims.username version)
          (.connected version session.id.text) with ⟨outcome, after⟩
        rw [hsend] at hconnected
        have hid : (session.authenticate claims.username version).id = session.id := rfl
        simp only [hid, hsend]
        cases outcome with
        | written => exact .head hconnected (outputs_sendReceipt _ hmiddle rfl rfl rfl)
        | refused reason => exact .single hconnected
        | timedOut => exact .single hconnected

theorem exists_change_outputs_handleSubscribe {session : Session} {frame : Frame}
    (hlive : broker.registry.get? session.id = some session)
    (hauthenticated : session.authenticated = true) :
    ∃ middle, Change setting (.handleFrame session.id frame) broker middle ∧
      Outputs setting (.handleFrame session.id frame) middle middle
        (broker.settle setting session frame (broker.handleSubscribe session frame)).2 := by
  unfold handleSubscribe
  split
  · exact ⟨broker, .none, outputs_protocolError _ _⟩
  · rename_i subscription hid
    split
    · exact ⟨broker, .none, outputs_protocolError _ _⟩
    · rename_i destination hdestination
      split
      · exact ⟨broker, .none, outputs_sendReceipt _ hlive rfl rfl rfl⟩
      · rename_i key hkey
        split
        · exact ⟨broker, .none, outputs_protocolError _ _⟩
        · rename_i subscribed hsubscribe
          refine ⟨_, .subscribed hlive hauthenticated rfl hid hdestination hkey hsubscribe, ?_⟩
          obtain ⟨-, rfl⟩ := Session.subscribe?_eq_some_iff.mp hsubscribe
          refine outputs_sendReceipt
            { session with subscriptions := session.subscriptions ++ [(subscription, key)] }
            ?_ rfl rfl rfl
          exact Registry.get?_update_self (fun _ _ ↦ rfl) hlive

theorem exists_change_outputs_handleUnsubscribe {session : Session} {frame : Frame}
    (hlive : broker.registry.get? session.id = some session)
    (hauthenticated : session.authenticated = true) :
    ∃ middle, Change setting (.handleFrame session.id frame) broker middle ∧
      Outputs setting (.handleFrame session.id frame) middle middle
        (broker.settle setting session frame (broker.handleUnsubscribe session frame)).2 := by
  unfold handleUnsubscribe
  split
  · exact ⟨broker, .none, outputs_protocolError _ _⟩
  · rename_i subscription hid
    split
    · exact ⟨broker, .none, outputs_sendReceipt _ hlive rfl rfl rfl⟩
    · rename_i key hkey
      refine ⟨_, .unsubscribed hlive hauthenticated rfl hid hkey, ?_⟩
      refine outputs_sendReceipt (session.unsubscribe subscription) ?_ rfl rfl rfl
      exact Registry.get?_update_self (fun _ hid ↦ hid) hlive

theorem exists_change_outputs_handleAuthenticated {session : Session} {frame : Frame}
    (hlive : broker.registry.get? session.id = some session)
    (hauthenticated : session.authenticated = true) :
    ∃ middle, Change setting (.handleFrame session.id frame) broker middle ∧
      Outputs setting (.handleFrame session.id frame) middle middle
        (broker.handleAuthenticated setting session frame).2 := by
  have hreceipt : Outputs setting (.handleFrame session.id frame) broker broker
      (broker.sendReceipt setting session frame) := outputs_sendReceipt _ hlive rfl rfl rfl
  unfold handleAuthenticated
  split
  · exact exists_change_outputs_handleSubscribe hlive hauthenticated
  · exact exists_change_outputs_handleUnsubscribe hlive hauthenticated
  · cases hsend : broker.handleSend setting session frame with
    | error failure => exact ⟨broker, .none, outputs_protocolError _ _⟩
    | ok after =>
      refine ⟨broker, .none, (outputs_handleSend hsend).trans ?_⟩
      exact outputs_sendReceipt _ hlive rfl rfl rfl
  · exact ⟨broker, .none, hreceipt⟩
  · exact ⟨broker, .none, hreceipt⟩
  · exact ⟨broker, .none, hreceipt⟩
  · exact ⟨broker, .none, hreceipt⟩
  · exact ⟨broker, .none, hreceipt⟩
  · exact ⟨broker, .none, hreceipt⟩
  all_goals exact ⟨broker, .none, outputs_protocolError _ _⟩

/-- A client opens its session with one of two commands. -/
theorem connect_or_stomp {command : Command} (hserver : command.isServerCommand = false)
    (hfamily : command.isConnectFamily = true) : command = .connect ∨ command = .stomp := by
  cases command with
  | connect => exact .inl rfl
  | stomp => exact .inr rfl
  | connected => cases hserver
  | _ => cases hfamily

theorem exists_change_outputs_handleFrame (id : SessionId) (frame : Frame) :
    ∃ middle, Change setting (.handleFrame id frame) broker middle ∧
      Outputs setting (.handleFrame id frame) middle middle
        (broker.handleFrame setting id frame).2 := by
  unfold handleFrame
  split
  · exact ⟨broker, .none, .refl⟩
  · rename_i session hget
    obtain rfl := Registry.id_of_get? hget
    split
    · exact ⟨broker, .none, outputs_protocolError _ _⟩
    · rename_i hserver
      split
      · rename_i hauthenticated
        exact exists_change_outputs_handleAuthenticated hget hauthenticated
      · rename_i hnew
        split
        · rename_i hcommand
          refine exists_change_outputs_handleConnect hget (by simpa using hnew) ?_
          exact connect_or_stomp (by simpa using hserver) hcommand
        · exact ⟨broker, .none, outputs_protocolError _ _⟩

/-! ### All operations -/

/-- An operation is a change, if it makes one, and the output that begins with it. -/
theorem exists_change_outputs (setting : Setting) (broker : Broker) (operation : Operation)
    (hfresh : operation.Fresh broker) :
    ∃ middle, Change setting operation broker middle ∧
      Outputs setting operation middle middle (broker.run setting operation) := by
  cases operation with
  | openSession id sink => exact ⟨_, .opened rfl hfresh, .refl⟩
  | handleFrame id frame => exact exists_change_outputs_handleFrame id frame
  | refuse id cause => exact ⟨broker, .none, outputs_protocolError id _⟩
  | timeOut id => exact ⟨broker, .none, outputs_reject none (by simp [refusals])⟩
  | answerPing id payload => exact ⟨broker, .none, .single (.answered id payload)⟩
  | broadcast destination body => exact ⟨broker, .none, outputs_publish _ _ _⟩
  | sendToUser recipient body => exact ⟨broker, .none, outputs_deliverToUser _ _ _ _⟩
  | sendToQueue recipient queue body => exact ⟨broker, .none, outputs_deliverToUser _ _ _ _⟩
  | broadcastNotice body => exact ⟨broker, .none, outputs_publish _ _ _⟩
  | broadcastDictionaryChange code => exact ⟨broker, .none, outputs_publish _ _ _⟩
  | closeSession id => exact ⟨broker, .none, outputs_closeSession id⟩
  | closeAll => exact ⟨broker, .none, outputs_foldl (fun _ id ↦ outputs_closeSession id) _⟩
  | closeLeft =>
    refine ⟨broker, .none, .head (.postponed []) ?_⟩
    exact outputs_foldl (fun _ id ↦ .single (.closed id)) _

/-- What the change of an operation keeps and every act of output keeps, the operation keeps. -/
theorem invariant_run {Holds : Broker → Prop} (hfresh : operation.Fresh broker)
    (change : ∀ {after}, Change setting operation broker after → Holds after)
    (output : ∀ {origin broker after}, Holds broker →
      Output setting operation origin broker after → Holds after) :
    Holds (broker.run setting operation) := by
  obtain ⟨middle, hchange, houtputs⟩ := exists_change_outputs setting broker operation hfresh
  have hmiddle : Holds middle := change hchange
  generalize broker.run setting operation = after at houtputs ⊢
  induction houtputs with
  | refl => exact hmiddle
  | tail _ houtput ih => exact output ih houtput

/-- What holds of the empty broker and is kept by every change and every act of output holds of
every reachable broker. -/
theorem Reachable.invariant {allowed : Setting → Broker → Operation → Prop}
    {Holds : Broker → Prop} (start : Holds {})
    (change : ∀ {setting operation broker after}, Reachable allowed broker →
      allowed setting broker operation → Holds broker → Change setting operation broker after →
        Holds after)
    (output : ∀ {setting operation origin broker after}, Holds broker →
      Output setting operation origin broker after → Holds after)
    (h : Reachable allowed broker) : Holds broker := by
  induction h with
  | start => exact start
  | step hreachable hfresh hallowed ih =>
    exact invariant_run hfresh (fun hchange ↦ change hreachable hallowed ih hchange)
      fun hholds houtput ↦ output hholds houtput

/-- What holds of a broker and is kept by every change and every act of output holds ever after. -/
theorem Later.invariant {allowed : Setting → Broker → Operation → Prop} {later : Broker}
    {Holds : Broker → Prop} (start : Holds broker)
    (change : ∀ {setting operation broker after}, Holds broker →
      Change setting operation broker after → Holds after)
    (output : ∀ {setting operation origin broker after}, Holds broker →
      Output setting operation origin broker after → Holds after)
    (h : Later allowed broker later) : Holds later := by
  induction h with
  | refl => exact start
  | step _ hfresh _ ih =>
    exact invariant_run hfresh (fun hchange ↦ change ih hchange)
      fun hholds houtput ↦ output hholds houtput

/-! ### What a change does to one session -/

/-- Where the record of a session comes from that is live after a change. -/
inductive Recorded (operation : Operation) (broker : Broker) (session : Session) : Prop
  | kept : broker.registry.get? session.id = some session → Recorded operation broker session
  | opened {sink : Sink} {connectTime : Int} :
    operation = .openSession session.id sink → { id := session.id, connectTime } = session →
      Recorded operation broker session
  | enrolled {earlier : Session} {frame : Frame} {username : String} {version : Version} :
    broker.registry.get? session.id = some earlier → earlier.authenticated = false →
      operation = .handleFrame session.id frame → frame.command.isConnectFamily = true →
        earlier.authenticate username version = session → Recorded operation broker session
  | subscribed {earlier : Session} {frame : Frame} {subscription destination key : String} :
    broker.registry.get? session.id = some earlier →
      operation = .handleFrame session.id frame →
        frame.header? Header.id = some subscription →
          frame.header? Header.destination = some destination →
            subscriptionKey? earlier.username destination = some key →
              earlier.subscribe? subscription key = some session →
                Recorded operation broker session
  | unsubscribed {earlier : Session} {frame : Frame} {subscription : String} :
    broker.registry.get? session.id = some earlier →
      operation = .handleFrame session.id frame →
        earlier.unsubscribe subscription = session → Recorded operation broker session

theorem recorded_of_change {after : Broker} {session : Session}
    (hchange : Change setting operation broker after)
    (hlive : after.registry.get? session.id = some session) :
    Recorded operation broker session := by
  cases hchange with
  | none => exact .kept hlive
  | @opened id sink hoperation _ =>
    have hget := hlive
    simp only [openSession] at hget
    rw [Registry.get?_add] at hget
    split at hget
    · rename_i hid
      cases hget
      exact .opened hoperation rfl
    · exact .kept hget
  | @enrolled changed frame version token claims after hbefore hnew hoperation hcommand _ _ _
      henrol =>
    obtain ⟨registry, hbind, rfl⟩ := enrol_eq_ok_iff.mp henrol
    simp only at hlive
    rw [Registry.get?_of_bind hbind, Registry.get?_update fun _ hid ↦ by exact hid] at hlive
    split at hlive
    · rename_i hid
      rw [hbefore] at hlive
      obtain rfl : changed.authenticate claims.username version = session := by simpa using hlive
      have hfamily : frame.command.isConnectFamily = true := by
        rcases hcommand with hcommand | hcommand <;> rw [hcommand] <;> rfl
      exact .enrolled hbefore hnew hoperation hfamily rfl
    · exact .kept hlive
  | @subscribed changed subscribed frame subscription destination key hbefore _ hoperation hid
      hdestination hkey hsubscribe =>
    obtain ⟨-, hsubscribed⟩ := Session.subscribe?_eq_some_iff.mp hsubscribe
    have hsame : subscribed.id = changed.id := by rw [← hsubscribed]
    simp only at hlive
    rw [Registry.get?_update fun _ _ ↦ hsame] at hlive
    split at hlive
    · rw [hbefore] at hlive
      obtain rfl : subscribed = session := by simpa using hlive
      rw [← hsame] at hbefore hoperation
      exact .subscribed hbefore hoperation hid hdestination hkey hsubscribe
    · exact .kept hlive
  | @unsubscribed changed frame subscription key hbefore _ hoperation _ _ =>
    simp only at hlive
    rw [Registry.get?_update fun _ hid ↦ by exact hid] at hlive
    split at hlive
    · rw [hbefore] at hlive
      obtain rfl : changed.unsubscribe subscription = session := by simpa using hlive
      exact .unsubscribed hbefore hoperation rfl
    · exact .kept hlive

end StompBroker.Broker
