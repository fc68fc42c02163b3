import StompBroker.Proofs.Broker.Conversation
import StompBroker.Proofs.Broker.Label

/-!
# The answers to frames

A frame of a client breaks the protocol in one of ten ways, or shows no credentials that hold
(`Rejected`). Then it is answered with an ERROR, and that is all that happens
(`errs_handleFrame`). Every other frame is `Honoured` (`honoured_handleFrame`): it is `Processed`,
which writes messages and takes out the sessions that they did not reach, and then it is confirmed.
Only a CONNECTED that does not arrive breaks that off.

So the frames of a client are sifted without leaving a trace of those that are refused
(`sifts_of_reachable`).
-/

set_option autoImplicit false

namespace StompBroker

/-- A write to the session did not succeed. -/
def Event.Fails (id : SessionId) : Event → Prop
  | wrote recipient _ _ outcome => recipient = id ∧ outcome ≠ .written
  | _ => False

namespace Broker

variable {setting : Setting} {broker middle after : Broker} {session : Session} {frame : Frame}
  {id : SessionId} {writes : List Event}

/-- One of the writes to the session did not succeed. -/
def Failed (events : List Event) (id : SessionId) : Prop := ∃ event ∈ events, event.Fails id

/-! ### Frames that are rejected -/

/-- A client may not send the frame, or it lacks what it needs. -/
inductive Rejected (setting : Setting) (session : Session) (frame : Frame) : Prop
  | server : frame.command ∈ [.connected, .message, .receipt, .error] →
      Rejected setting session frame
  /-- The session is connected already. -/
  | again : session.authenticated = true → frame.command = .connect ∨ frame.command = .stomp →
      Rejected setting session frame
  | version : session.authenticated = false → frame.command = .connect ∨ frame.command = .stomp →
      (∀ version, ¬Version.Agreed (frame.header? Header.acceptVersion) version) →
        Rejected setting session frame
  | token : session.authenticated = false → frame.command = .connect ∨ frame.command = .stomp →
      (∀ token claims, FirstCredential frame token →
        setting.auth.parse setting.clock token ≠ .ok claims) →
          Rejected setting session frame
  /-- The session has to connect first. -/
  | early : session.authenticated = false → ¬(frame.command = .connect ∨ frame.command = .stomp) →
      Rejected setting session frame
  | unnamed : session.authenticated = true → frame.command = .subscribe →
      frame.header? Header.id = none → Rejected setting session frame
  | nowhere : session.authenticated = true → frame.command = .subscribe →
      frame.header? Header.destination = none → Rejected setting session frame
  | taken {subscription destination : String} : session.authenticated = true →
      frame.command = .subscribe → frame.header? Header.id = some subscription →
        frame.header? Header.destination = some destination →
          Subscribable session.username destination →
            session.subscriptions.lookup subscription ≠ none → Rejected setting session frame
  | unknown : session.authenticated = true → frame.command = .unsubscribe →
      frame.header? Header.id = none → Rejected setting session frame
  | unaddressed : session.authenticated = true → frame.command = .send →
      frame.header? Header.destination = none → Rejected setting session frame

/-- An ERROR is written to the session, and its connection ends. -/
def Errs (setting : Setting) (broker : Broker) (session : Session) (answer : Flow × Broker) :
    Prop :=
  ∃ text detail, answer = (.close, (broker.send setting session (.error text detail)).2)

theorem errs_reject (hlive : broker.registry.get? session.id = some session) (text : String)
    (detail : Option String) :
    Errs setting broker session (broker.reject setting session.id text detail) :=
  ⟨text, detail, by rw [reject, hlive]⟩

theorem errs_settle (hlive : broker.registry.get? session.id = some session) (failure : Failure) :
    Errs setting broker session (broker.settle setting session frame (.error failure)) :=
  errs_reject hlive _ _

/-- Without a version or a token that holds a handshake is answered with an ERROR. -/
theorem errs_handleConnect (hlive : broker.registry.get? session.id = some session)
    (h : ∀ version token claims, Version.Agreed (frame.header? Header.acceptVersion) version →
      FirstCredential frame token → setting.auth.parse setting.clock token ≠ .ok claims) :
    Errs setting broker session (broker.handleConnect setting session frame) := by
  unfold handleConnect
  split
  · exact errs_reject hlive _ _
  rename_i version hversion
  split
  · exact errs_reject hlive _ _
  · exact errs_reject hlive _ _
  · rename_i claims hclaims
    obtain ⟨token, htoken, hparse⟩ := Option.map_eq_some_iff.mp hclaims
    exact absurd hparse (h version token claims (Version.negotiate_eq_some_iff.mp hversion)
      (connectToken?_eq_some_iff.mp htoken))

theorem exists_error_handleSubscribe_iff :
    (∃ failure, broker.handleSubscribe session frame = .error failure) ↔
      frame.header? Header.id = none ∨ frame.header? Header.destination = none ∨
        ∃ subscription destination, frame.header? Header.id = some subscription ∧
          frame.header? Header.destination = some destination ∧
            Subscribable session.username destination ∧
              session.subscriptions.lookup subscription ≠ none := by
  unfold handleSubscribe
  cases hid : frame.header? Header.id with
  | none => simp
  | some subscription =>
    cases hdestination : frame.header? Header.destination with
    | none => simp
    | some destination =>
      cases hkey : subscriptionKey? session.username destination with
      | none =>
        have hdropped : ¬Subscribable session.username destination := by
          rw [← exists_subscriptionKey?_iff, hkey]
          simp
        simp [hkey, hdropped]
      | some key =>
        have hsubscribable : Subscribable session.username destination :=
          exists_subscriptionKey?_iff.mp ⟨key, hkey⟩
        cases hlookup : session.subscriptions.lookup subscription with
        | none => simp [hkey, Session.subscribe?, hlookup, -List.lookup_eq_none_iff]
        | some taken =>
          simp [hkey, Session.subscribe?, hlookup, hsubscribable, -List.lookup_eq_none_iff]

theorem exists_error_handleUnsubscribe_iff :
    (∃ failure, broker.handleUnsubscribe session frame = .error failure) ↔
      frame.header? Header.id = none := by
  unfold handleUnsubscribe
  cases hid : frame.header? Header.id with
  | none => simp
  | some subscription =>
    cases hlookup : session.subscriptions.lookup subscription <;> simp [hlookup]

theorem exists_error_handleSend_iff :
    (∃ failure, broker.handleSend setting session frame = .error failure) ↔
      frame.header? Header.destination = none := by
  unfold handleSend
  cases hdestination : frame.header? Header.destination with
  | none => simp
  | some destination => cases hparse : Destination.parse destination <;> simp [hparse]

/-- A connected session is answered by what its own frame comes to. -/
theorem errs_of_settle {result : Except Failure Broker}
    (hlive : broker.registry.get? session.id = some session)
    (hauthenticated : session.authenticated = true)
    (hserver : frame.command.isServerCommand = false)
    (hanswer : broker.handleAuthenticated setting session frame =
      broker.settle setting session frame result) (hresult : ∃ failure, result = .error failure) :
    Errs setting broker session (broker.handleFrame setting session.id frame) := by
  obtain ⟨failure, rfl⟩ := hresult
  rw [handleFrame_of_authenticated hserver hlive hauthenticated, hanswer]
  exact errs_settle hlive failure

/-- Whatever a frame is rejected for, it is answered with an ERROR. -/
theorem errs_handleFrame (hlive : broker.registry.get? session.id = some session)
    (h : Rejected setting session frame) :
    Errs setting broker session (broker.handleFrame setting session.id frame) := by
  have hsubscribe : session.authenticated = true → frame.command = .subscribe →
      (∃ failure, broker.handleSubscribe session frame = .error failure) →
        Errs setting broker session (broker.handleFrame setting session.id frame) := by
    intro hauthenticated hcommand
    exact errs_of_settle hlive hauthenticated (by rw [hcommand]; rfl)
      (by rw [handleAuthenticated, hcommand])
  cases h with
  | server hserver =>
    have hserver : frame.command.isServerCommand = true := by
      simp only [List.mem_cons, List.not_mem_nil, or_false] at hserver
      rcases hserver with hcommand | hcommand | hcommand | hcommand <;> rw [hcommand] <;> rfl
    rw [handleFrame_of_server hserver hlive]
    exact errs_reject hlive _ _
  | again hauthenticated hcommand =>
    have hserver : frame.command.isServerCommand = false := by
      rcases hcommand with hcommand | hcommand <;> rw [hcommand] <;> rfl
    have hanswer : broker.handleAuthenticated setting session frame =
        broker.settle setting session frame (.error (.protocol "Already connected")) := by
      rcases hcommand with hcommand | hcommand <;> rw [handleAuthenticated, hcommand]
    exact errs_of_settle hlive hauthenticated hserver hanswer ⟨_, rfl⟩
  | version hnew hcommand hversion =>
    rw [handleFrame_of_connect hcommand hlive hnew]
    exact errs_handleConnect hlive fun version _ _ hagreed _ ↦ absurd hagreed (hversion version)
  | token hnew hcommand htoken =>
    rw [handleFrame_of_connect hcommand hlive hnew]
    exact errs_handleConnect hlive fun _ token claims _ hfirst ↦ htoken token claims hfirst
  | early hnew hcommand =>
    rw [handleFrame, hlive]
    simp only [hnew, Bool.false_eq_true, if_false]
    split
    · exact errs_reject hlive _ _
    rename_i hserver
    split
    · rename_i hfamily
      exact absurd (connect_or_stomp (by simpa using hserver) hfamily) hcommand
    · exact errs_reject hlive _ _
  | unnamed hauthenticated hcommand hid =>
    exact hsubscribe hauthenticated hcommand (exists_error_handleSubscribe_iff.mpr (.inl hid))
  | nowhere hauthenticated hcommand hdestination =>
    exact hsubscribe hauthenticated hcommand
      (exists_error_handleSubscribe_iff.mpr (.inr (.inl hdestination)))
  | taken hauthenticated hcommand hid hdestination hsubscribable htaken =>
    exact hsubscribe hauthenticated hcommand (exists_error_handleSubscribe_iff.mpr
      (.inr (.inr ⟨_, _, hid, hdestination, hsubscribable, htaken⟩)))
  | unknown hauthenticated hcommand hid =>
    exact errs_of_settle hlive hauthenticated (by rw [hcommand]; rfl)
      (by rw [handleAuthenticated, hcommand]) (exists_error_handleUnsubscribe_iff.mpr hid)
  | unaddressed hauthenticated hcommand hdestination =>
    exact errs_of_settle hlive hauthenticated (by rw [hcommand]; rfl)
      (by rw [handleAuthenticated, hcommand]) (exists_error_handleSend_iff.mpr hdestination)

/-! ### Frames that are processed -/

/-- What was written are no answers, and the sessions that were not reached are taken out. -/
structure Processed (broker after : Broker) (writes : List Event) : Prop where
  journal : after.journal = broker.journal ++ writes
  frames : ∀ recipient version written outcome, .wrote recipient version written outcome ∈ writes →
    written.command = .message ∨ written.command = .connected
  removed_iff : ∀ id, after.registry.get? id = none ↔
    broker.registry.get? id = none ∨ Failed writes id

theorem not_failed_nil : ¬Failed [] id := by
  rintro ⟨event, hmem, -⟩
  cases hmem

theorem processed_of_journal_eq (hjournal : after.journal = broker.journal)
    (hlive : ∀ id, after.registry.get? id = none ↔ broker.registry.get? id = none) :
    Processed broker after [] := by
  refine ⟨by rw [hjournal, List.append_nil], by simp, fun id ↦ ?_⟩
  rw [hlive, or_iff_left not_failed_nil]

theorem Processed.refl (broker : Broker) : Processed broker broker [] :=
  processed_of_journal_eq rfl fun _ ↦ Iff.rfl

theorem failed_events_iff {message : Message} {attempts : List Attempt} :
    Failed (attempts.map (Attempt.event message)) id ↔ Lost attempts id := by
  simp only [Failed, Lost, List.mem_map, exists_exists_and_eq_and, Attempt.event, Event.Fails,
    Attempt.succeeded, decide_eq_false_iff_not, ne_eq]

theorem FannedOut.processed {message : Message} {subscribers : List Subscriber}
    {attempts : List Attempt} (h : FannedOut broker after message subscribers attempts []) :
    Processed broker after (attempts.map (Attempt.event message)) := by
  refine ⟨by rw [h.journal, List.append_nil], fun _ _ _ _ hmem ↦ ?_, fun id ↦ ?_⟩
  · obtain ⟨attempt, -, hevent⟩ := List.mem_map.mp hmem
    obtain ⟨-, -, rfl, -⟩ := Event.wrote.inj hevent
    exact .inl (attempt.delivers message).command
  · rw [failed_events_iff]
    by_cases hlost : Lost attempts id
    · simp only [h.gone id hlost, hlost, or_true]
    · rw [h.kept id hlost, or_iff_left hlost]

section Send

variable (hconsistent : Consistent broker) (hproper : Proper broker)

include hconsistent

theorem exists_processed_publish (setting : Setting) (key contentType : String) (body : Bytes) :
    ∃ writes, Processed broker (broker.publish setting key contentType body).2 writes := by
  obtain ⟨attempts, hfanned, -⟩ :=
    exists_fannedOut_publish hconsistent setting ⟨key, contentType, body⟩
  exact ⟨_, hfanned.processed⟩

include hproper

theorem exists_processed_deliverToUser (setting : Setting) (recipient queue contentType : String)
    (body : Bytes) :
    ∃ writes, Processed broker (broker.deliverToUser setting recipient (userQueue queue)
      (userDestination recipient queue) contentType body).2 writes := by
  obtain ⟨attempts, hrouted⟩ :=
    exists_routed_deliverToUser hconsistent hproper setting recipient queue contentType body
  exact ⟨_, hrouted.processed⟩

/-- An endpoint that fails, or that there is not, writes nothing. -/
theorem exists_processed_dispatch (setting : Setting) (session : Session) (destination : String)
    (body : Bytes) :
    ∃ writes, Processed broker (broker.dispatch setting session destination body) writes := by
  unfold dispatch
  split
  · exact ⟨[], .refl broker⟩
  simp only
  split
  · exact ⟨[], .refl broker⟩
  · rename_i publication _
    cases publication with
    | broadcast destination body =>
      exact exists_processed_publish hconsistent setting destination jsonContentType body
    | toUser recipient queue body =>
      exact exists_processed_deliverToUser hconsistent hproper setting recipient queue
        jsonContentType body

theorem exists_processed_handleSend (h : broker.handleSend setting session frame = .ok after) :
    ∃ writes, Processed broker after writes := by
  unfold handleSend at h
  split at h
  · cases h
  simp only at h
  split at h
  · cases h
    exact exists_processed_dispatch hconsistent hproper setting session _ _
  · cases h
    exact exists_processed_publish hconsistent setting _ _ _
  · cases h
    exact exists_processed_publish hconsistent setting _ _ _
  · rename_i hparse
    cases h
    obtain ⟨queue, rfl, rfl⟩ := Destination.parse_eq_userScoped hparse
    exact exists_processed_deliverToUser hconsistent hproper setting _ _ _ _
  · cases h
    exact ⟨[], .refl broker⟩
  · cases h
    exact ⟨[], .refl broker⟩

end Send

theorem processed_handleSubscribe (h : broker.handleSubscribe session frame = .ok after) :
    Processed broker after [] := by
  refine processed_of_journal_eq (journal_of_handleSubscribe h) fun id ↦ ?_
  unfold handleSubscribe at h
  split at h
  · cases h
  split at h
  · cases h
  split at h
  · cases h
    exact Iff.rfl
  split at h
  · cases h
  · rename_i subscribed hsubscribe
    cases h
    obtain ⟨-, hsubscribed⟩ := Session.subscribe?_eq_some_iff.mp hsubscribe
    exact Registry.get?_update_eq_none_iff fun _ _ ↦ by rw [← hsubscribed]

theorem processed_handleUnsubscribe (h : broker.handleUnsubscribe session frame = .ok after) :
    Processed broker after [] := by
  refine processed_of_journal_eq (journal_of_handleUnsubscribe h) fun id ↦ ?_
  unfold handleUnsubscribe at h
  split at h
  · cases h
  split at h
  · cases h
    exact Iff.rfl
  · cases h
    exact Registry.get?_update_eq_none_iff fun _ hid ↦ hid

theorem processed_enrol {username : String} {version : Version}
    (h : broker.enrol session username version = .ok after) : Processed broker after [] := by
  obtain ⟨registry, hbind, rfl⟩ := enrol_eq_ok_iff.mp h
  refine processed_of_journal_eq rfl fun id ↦ ?_
  rw [Registry.get?_of_bind hbind]
  exact Registry.get?_update_eq_none_iff fun _ hid ↦ hid

/-- A write is recorded with its outcome, and takes no session out. -/
theorem journal_of_send {outcome : WriteOutcome}
    (hsend : broker.send setting session frame = (outcome, after)) :
    after.journal = broker.journal ++ [.wrote session.id session.version frame outcome] ∧
      after.registry = broker.registry := by
  have hwritten : (broker.send setting session frame).2.journal = broker.journal ++
        [.wrote session.id session.version frame (broker.send setting session frame).1] ∧
      (broker.send setting session frame).2.registry = broker.registry := ⟨rfl, rfl⟩
  rwa [hsend] at hwritten

/-- Once CONNECTED is written the handshake is processed. -/
theorem Processed.welcome (h : Processed broker middle []) {version : Version} {name : String}
    (hsend : middle.send setting session (.connected version name) = (.written, after)) :
    Processed broker after
      [.wrote session.id session.version (.connected version name) .written] := by
  obtain ⟨hjournal, hregistry⟩ := journal_of_send hsend
  refine ⟨?_, fun _ _ _ _ hmem ↦ ?_, fun id ↦ ?_⟩
  · rw [hjournal, h.journal, List.append_nil]
  · cases List.mem_singleton.mp hmem
    exact .inr rfl
  · have hreached : ¬Failed [.wrote session.id session.version (.connected version name) .written]
        id := by
      simp [Failed, Event.Fails]
    rw [hregistry, or_iff_left hreached]
    exact (h.removed_iff id).trans (or_iff_left not_failed_nil)

/-! ### Frames that are honoured -/

/-- A frame was processed and confirmed, or its client was not reached with CONNECTED. -/
inductive Honoured (setting : Setting) (broker : Broker) (session : Session) (frame : Frame) :
    Flow × Broker → Prop
  | confirmed {middle : Broker} {recipient : Session} {writes : List Event} :
    Processed broker middle writes → recipient.id = session.id →
      Honoured setting broker session frame
        (if frame.command = .disconnect then .close else .continue,
          middle.sendReceipt setting recipient frame)
  | unwelcomed {after : Broker} {version : Version} {outcome : WriteOutcome} :
    outcome ≠ .written →
      after.journal = broker.journal ++
        [.wrote session.id version (.connected version session.id.text) outcome] →
        Honoured setting broker session frame (.close, after)

theorem Processed.confirmed (h : Processed broker middle writes)
    (hcommand : frame.command ≠ .disconnect) {recipient : Session}
    (hid : recipient.id = session.id) :
    Honoured setting broker session frame
      (.continue, middle.sendReceipt setting recipient frame) := by
  have hconfirmed : Honoured setting broker session frame
      (if frame.command = .disconnect then .close else .continue,
        middle.sendReceipt setting recipient frame) := .confirmed h hid
  rwa [if_neg hcommand] at hconfirmed

theorem honoured_handleConnect (hcommand : frame.command ≠ .disconnect)
    (hlive : broker.registry.get? session.id = some session) {version : Version} {token : String}
    {claims : Claims} (hversion : Version.Agreed (frame.header? Header.acceptVersion) version)
    (htoken : FirstCredential frame token)
    (hparse : setting.auth.parse setting.clock token = .ok claims) :
    Honoured setting broker session frame (broker.handleConnect setting session frame) := by
  obtain ⟨middle, henrol⟩ := exists_enrol hlive claims.username version
  rw [handleConnect_of_parse (Version.negotiate_eq_some_iff.mpr hversion)
    (connectToken?_eq_some_iff.mpr htoken) hparse henrol]
  have hprocessed := processed_enrol henrol
  have hid : (session.authenticate claims.username version).id = session.id := rfl
  split
  · rename_i hsend
    exact (hprocessed.welcome hsend).confirmed hcommand hid
  · rename_i outcome greeted hfailed hsend
    have houtcome : outcome ≠ .written := by
      rintro rfl
      exact hfailed rfl
    have hjournal : greeted.journal = broker.journal ++
        [.wrote session.id version (.connected version session.id.text) outcome] := by
      rw [(journal_of_send hsend).1, hprocessed.journal, List.append_nil]
      rfl
    exact .unwelcomed houtcome hjournal

theorem honoured_settle {result : Except Failure Broker} (hcommand : frame.command ≠ .disconnect)
    (hok : ∀ after, result = .ok after → ∃ writes, Processed broker after writes)
    (herror : ∀ failure, result ≠ .error failure) :
    Honoured setting broker session frame (broker.settle setting session frame result) := by
  cases result with
  | ok after =>
    obtain ⟨writes, hprocessed⟩ := hok after rfl
    exact hprocessed.confirmed hcommand rfl
  | error failure => exact absurd rfl (herror failure)

theorem rejected_of_handleSubscribe {failure : Failure}
    (hauthenticated : session.authenticated = true) (hcommand : frame.command = .subscribe)
    (h : broker.handleSubscribe session frame = .error failure) :
    Rejected setting session frame := by
  rcases exists_error_handleSubscribe_iff.mp ⟨failure, h⟩ with
    hid | hdestination | ⟨_, _, hid, hdestination, hsubscribable, htaken⟩
  · exact .unnamed hauthenticated hcommand hid
  · exact .nowhere hauthenticated hcommand hdestination
  · exact .taken hauthenticated hcommand hid hdestination hsubscribable htaken

theorem honoured_handleAuthenticated (hconsistent : Consistent broker) (hproper : Proper broker)
    (hauthenticated : session.authenticated = true) (h : ¬Rejected setting session frame) :
    Honoured setting broker session frame (broker.handleAuthenticated setting session frame) := by
  have hignored : frame.command ≠ .disconnect →
      Honoured setting broker session frame (broker.settle setting session frame (.ok broker)) :=
    fun hcommand ↦ (Processed.refl broker).confirmed hcommand rfl
  unfold handleAuthenticated
  split
  · rename_i hcommand
    exact honoured_settle (by simp [hcommand]) (fun _ hok ↦ ⟨[], processed_handleSubscribe hok⟩)
      fun _ herror ↦ h (rejected_of_handleSubscribe hauthenticated hcommand herror)
  · rename_i hcommand
    exact honoured_settle (by simp [hcommand]) (fun _ hok ↦ ⟨[], processed_handleUnsubscribe hok⟩)
      fun _ herror ↦ h (.unknown hauthenticated hcommand
        (exists_error_handleUnsubscribe_iff.mp ⟨_, herror⟩))
  · rename_i hcommand
    exact honoured_settle (by simp [hcommand])
      (fun _ hok ↦ exists_processed_handleSend hconsistent hproper hok)
      fun _ herror ↦ h (.unaddressed hauthenticated hcommand
        (exists_error_handleSend_iff.mp ⟨_, herror⟩))
  · rename_i hcommand
    have hconfirmed : Honoured setting broker session frame
        (if frame.command = .disconnect then .close else .continue,
          broker.sendReceipt setting session frame) := .confirmed (.refl broker) rfl
    rwa [if_pos hcommand] at hconfirmed
  -- Five commands ask for nothing but their receipt.
  iterate 5
    rename_i hcommand
    exact hignored (by simp [hcommand])
  · rename_i hcommand
    exact absurd (.again hauthenticated (.inl hcommand)) h
  · rename_i hcommand
    exact absurd (.again hauthenticated (.inr hcommand)) h
  all_goals
    rename_i hcommand
    exact absurd (.server (by simp [hcommand])) h

/-- Every frame that is not rejected is honoured. -/
theorem honoured_handleFrame (hconsistent : Consistent broker) (hproper : Proper broker)
    (hlive : broker.registry.get? session.id = some session)
    (h : ¬Rejected setting session frame) :
    Honoured setting broker session frame (broker.handleFrame setting session.id frame) := by
  have hserver : frame.command.isServerCommand = false := by
    cases hcommand : frame.command <;> first
      | rfl
      | exact absurd (.server (by simp [hcommand])) h
  cases hauthenticated : session.authenticated with
  | true =>
    rw [handleFrame_of_authenticated hserver hlive hauthenticated]
    exact honoured_handleAuthenticated hconsistent hproper hauthenticated h
  | false =>
    by_cases hopening : frame.command = .connect ∨ frame.command = .stomp
    · obtain ⟨version, hversion⟩ :
          ∃ version, Version.Agreed (frame.header? Header.acceptVersion) version := by
        by_contra hnone
        exact h (.version hauthenticated hopening (not_exists.mp hnone))
      obtain ⟨token, claims, htoken, hparse⟩ : ∃ token claims, FirstCredential frame token ∧
          setting.auth.parse setting.clock token = .ok claims := by
        by_contra hnone
        exact h (.token hauthenticated hopening fun token claims htoken hparse ↦
          hnone ⟨token, claims, htoken, hparse⟩)
      have hcommand : frame.command ≠ .disconnect := by
        rcases hopening with hcommand | hcommand <;> simp [hcommand]
      rw [handleFrame_of_connect hopening hlive hauthenticated]
      exact honoured_handleConnect hcommand hlive hversion htoken hparse
    · exact absurd (.early hauthenticated hopening) h

/-! ### Errors and receipts -/

/-- Behind all else that was written stands the receipt that the frame asks for. -/
def Confirms (id : SessionId) (frame : Frame) (events : List Event) : Prop :=
  ∃ front receipts, events = front ++ receipts ∧
    (∀ recipient version written outcome, .wrote recipient version written outcome ∈ front →
      written.command ≠ .receipt) ∧
    match frame.header? Header.receipt with
    | none => receipts = []
    | some receipt => ∃ version, receipts = [.wrote id version (.receipt receipt) .written]

/-- Nothing was done but that one ERROR was written to the session, or tried to be. -/
structure Refused (session : Session) (before after : Broker) : Prop where
  registry : after.registry = before.registry
  table : after.table = before.table
  departed : after.departed = before.departed
  closing : after.closing = before.closing
  nextMessageId : after.nextMessageId = before.nextMessageId
  sinks : ∀ other, other ≠ session.id → after.sink other = before.sink other
  journal : ∃ text detail outcome, after.journal =
    before.journal ++ [.wrote session.id session.version (.error text detail) outcome]

theorem Errs.refused {answer : Flow × Broker} (h : Errs setting broker session answer) :
    answer.1 = .close ∧ Refused session broker answer.2 := by
  obtain ⟨text, detail, rfl⟩ := h
  refine ⟨rfl, rfl, rfl, rfl, rfl, rfl, fun other hne ↦ ?_, text, detail, _, rfl⟩
  exact sink_setSink.trans (if_neg hne.symm)

/-- A frame that is honoured is not answered with an ERROR, and is confirmed if its client is
reached. -/
theorem Honoured.exists_confirms {answer : Flow × Broker}
    (h : Honoured setting broker session frame answer) :
    ∃ events, answer.2.journal = broker.journal ++ events ∧
      (∀ recipient version written outcome, .wrote recipient version written outcome ∈ events →
        written.command ≠ .error) ∧
      (¬Failed events session.id → Confirms session.id frame events ∧
        answer.1 = if frame.command = .disconnect then .close else .continue) := by
  cases h with
  | @confirmed middle recipient writes hprocessed hid =>
    obtain ⟨receipts, hreceipted, hjournal⟩ := exists_receipted setting middle recipient frame
    have hunanswered : ∀ recipient version written outcome,
        .wrote recipient version written outcome ∈ writes →
          written.command ≠ .error ∧ written.command ≠ .receipt := by
      intro recipient version written outcome hmem
      rcases hprocessed.frames _ _ _ _ hmem with hcommand | hcommand <;> simp [hcommand]
    refine ⟨writes ++ receipts, ?_, fun _ _ written _ hmem ↦ ?_, fun hreached ↦
      ⟨⟨writes, receipts, rfl, fun _ _ _ _ hmem ↦ (hunanswered _ _ _ _ hmem).2, ?_⟩, rfl⟩⟩
    · rw [hjournal, hprocessed.journal, List.append_assoc]
    · rcases List.mem_append.mp hmem with hwrite | hreceipt
      · exact (hunanswered _ _ _ _ hwrite).1
      · cases hreceipted with
        | none _ => cases hreceipt
        | written _ _ =>
          cases List.mem_singleton.mp hreceipt
          simp [Frame.receipt]
    · cases hreceipted with
      | none hnone => rw [hnone]
      | @written receipt outcome hreceipt =>
        rw [hreceipt]
        have houtcome : outcome = .written := by
          by_contra hfailed
          exact hreached ⟨_, List.mem_append_right _ List.mem_cons_self, hid, hfailed⟩
        exact ⟨recipient.version, by rw [houtcome, hid]⟩
  | unwelcomed hfailed hjournal =>
    refine ⟨_, hjournal, fun _ _ written _ hmem ↦ ?_, fun hreached ↦ ?_⟩
    · cases List.mem_singleton.mp hmem
      simp [Frame.connected]
    · exact absurd ⟨_, List.mem_cons_self, rfl, hfailed⟩ hreached

/-- Frames that are rejected leave no trace but an ERROR, and no other frame is answered with
one. -/
structure Sifts (broker : Broker) : Prop where
  rejected : ∀ setting session frame, broker.registry.get? session.id = some session →
    Rejected setting session frame →
      (broker.handleFrame setting session.id frame).1 = .close ∧
        Refused session broker (broker.run setting (.handleFrame session.id frame))
  /-- The connection goes on unless the client ends it. -/
  accepted : ∀ setting session frame, broker.registry.get? session.id = some session →
    ¬Rejected setting session frame →
      ∃ events, (broker.run setting (.handleFrame session.id frame)).journal =
          broker.journal ++ events ∧
        (∀ recipient version written outcome, .wrote recipient version written outcome ∈ events →
          written.command ≠ .error) ∧
        (frame.command ≠ .disconnect → ¬Failed events session.id →
          (broker.handleFrame setting session.id frame).1 = .continue)

/-- Whatever was asked of the broker, frames are sifted. -/
theorem sifts_of_reachable {allowed : Setting → Broker → Operation → Prop}
    (h : Reachable allowed broker) : Sifts broker where
  rejected _ _ _ hlive hrejected := (errs_handleFrame hlive hrejected).refused
  accepted _ _ _ hlive haccepted := by
    obtain ⟨events, hjournal, herror, hconfirmed⟩ :=
      (honoured_handleFrame h.consistent h.proper hlive haccepted).exists_confirms
    refine ⟨events, hjournal, herror, fun hcommand hreached ↦ ?_⟩
    rw [(hconfirmed hreached).2, if_neg hcommand]

/-- The receiver may not subscribe under the same id again. -/
theorem sifts_of_reachable_prepared :
    let receiver : Session :=
      { (Forgery.fresh Forgery.receiver).authenticate "u" .v10 with
        subscriptions := [("0", "/topic/x")] }
    Reachable FromWire Forgery.prepared ∧ Sifts Forgery.prepared ∧
      Forgery.prepared.registry.get? receiver.id = some receiver ∧
      Rejected Forgery.setting receiver Forgery.subscribe :=
  ⟨Forgery.reachable_prepared, sifts_of_reachable Forgery.reachable_prepared, rfl,
    .taken rfl rfl rfl rfl (.inl ⟨"/topic/", by decide, "x", by decide, rfl⟩) (by decide)⟩

/-- Whatever was asked of the broker, a frame that is not rejected is confirmed, behind all that it
caused, if its client asks for that and is reached. -/
theorem confirms_of_reachable {allowed : Setting → Broker → Operation → Prop}
    (h : Reachable allowed broker) (setting : Setting)
    (hlive : broker.registry.get? session.id = some session)
    (haccepted : ¬Rejected setting session frame) :
    ∃ events, (broker.run setting (.handleFrame session.id frame)).journal =
        broker.journal ++ events ∧
      (¬Failed events session.id → Confirms session.id frame events) := by
  obtain ⟨events, hjournal, -, hconfirmed⟩ :=
    (honoured_handleFrame h.consistent h.proper hlive haccepted).exists_confirms
  exact ⟨events, hjournal, fun hreached ↦ (hconfirmed hreached).1⟩

/-- A message of the sender that asks for a receipt. -/
def Forgery.receipted : Frame where
  command := .send
  headers := [(Header.destination, "/topic/x"), (Header.receipt, "done")]
  body := []

/-- The message is written to the receiver before its receipt is written to the sender. -/
theorem confirms_of_reachable_prepared :
    let sender : Session := (Forgery.fresh Forgery.sender).authenticate "u" .v12
    let after := Forgery.prepared.run Forgery.setting (.handleFrame sender.id Forgery.receipted)
    let events : List Event :=
      [.wrote Forgery.receiver .v10 (.message "/topic/x" "0" "1" jsonContentType []) .written,
        .wrote Forgery.sender .v12 (.receipt "done") .written]
    Reachable FromWire Forgery.prepared ∧
      Forgery.prepared.registry.get? sender.id = some sender ∧
      ¬Rejected Forgery.setting sender Forgery.receipted ∧
      after.journal = Forgery.prepared.journal ++ events ∧ ¬Failed events sender.id ∧
      Confirms sender.id Forgery.receipted events := by
  intro sender after events
  have haccepted : ¬Rejected Forgery.setting sender Forgery.receipted := by
    intro h
    cases h <;> simp_all [sender, Forgery.receipted, Forgery.fresh, Session.authenticate,
      Frame.header?]
  have hjournal : after.journal = Forgery.prepared.journal ++ events := by decide
  have hreached : ¬Failed events sender.id := by
    simp [events, Failed, Event.Fails]
  obtain ⟨written, hwritten, hconfirms⟩ :=
    confirms_of_reachable Forgery.reachable_prepared Forgery.setting rfl haccepted
  obtain rfl : events = written := List.append_cancel_left (hjournal.symm.trans hwritten)
  exact ⟨Forgery.reachable_prepared, rfl, haccepted, hjournal, hreached, hconfirms hreached⟩

end Broker

end StompBroker
