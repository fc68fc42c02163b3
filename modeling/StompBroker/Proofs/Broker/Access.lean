import Mathlib.Data.List.ReduceOption
import StompBroker.Proofs.Broker.Written
import StompBroker.Proofs.Frame.Version

/-!
# Access is by handshake

The identity of a session is the user and the version that its handshake settled. An operation
leaves the identities of all sessions as they are, those of departed sessions included, unless it is
a handshake that is `Accepted`: then it gives the session the identity that the handshake asks for
(`identity?_run`). So a session has an identity only from such a handshake, and has it ever after.

A frame of a session without an identity is `Confined` to that session: it is at most answered, and
neither the table nor any other session has a part in it (`confined_handleFrame`).
-/

set_option autoImplicit false

namespace StompBroker

/-- What the handshake of a session settled. -/
def Session.identity? (session : Session) : Option (String × Version) :=
  if session.authenticated then some (session.username, session.version) else none

namespace Broker

variable {setting : Setting} {operation : Operation} {origin broker after : Broker}
  {id other : SessionId} {session : Session} {frame : Frame}

/-- What the handshake of a session settled, also of one that has left. -/
def identity? (broker : Broker) (id : SessionId) : Option (String × Version) :=
  (broker.session? id).bind Session.identity?

/-! ### Handshakes -/

/-- The credentials of a handshake in the order in which they are tried. -/
def credentials (frame : Frame) : List String :=
  [(frame.header? Header.authorization).map bearerToken, frame.header? Header.passcode,
    frame.header? Header.login].reduceOption

/-- The first credential that is not empty. -/
def FirstCredential (frame : Frame) (token : String) : Prop :=
  ∃ front back, credentials frame = front ++ token :: back ∧ token ≠ "" ∧
    ∀ credential ∈ front, credential = ""

theorem findSome?_eq_find?_reduceOption (presented : List (Option String)) :
    presented.findSome? (fun credential ↦ credential.filter (!·.isEmpty)) =
      presented.reduceOption.find? (!·.isEmpty) := by
  induction presented with
  | nil => rfl
  | cons credential presented ih =>
    cases credential with
    | none => exact ih
    | some credential =>
      rw [List.reduceOption_cons_of_some, List.findSome?_cons, List.find?_cons, Option.filter_some,
        ih]
      cases !credential.isEmpty with
      | true => rfl
      | false => rfl

theorem connectToken?_eq_some_iff {token : String} :
    connectToken? frame = some token ↔ FirstCredential frame token := by
  rw [connectToken?, findSome?_eq_find?_reduceOption, List.find?_eq_some_iff_append]
  simp only [Bool.not_eq_true', Bool.not_not, String.isEmpty_eq_false_iff, String.isEmpty_iff]
  constructor
  · rintro ⟨hne, front, back, hcredentials, hfront⟩
    exact ⟨front, back, hcredentials, hne, hfront⟩
  · rintro ⟨front, back, hcredentials, hne, hfront⟩
    exact ⟨hne, front, back, hcredentials, hfront⟩

/-- A handshake for a user, in the version to agree on, with a token that holds. -/
structure Accepted (setting : Setting) (frame : Frame) (username : String) (version : Version) :
    Prop where
  command : frame.command = .connect ∨ frame.command = .stomp
  version : Version.Agreed (frame.header? Header.acceptVersion) version
  token : ∃ token claims, FirstCredential frame token ∧
    setting.auth.parse setting.clock token = .ok claims ∧ claims.username = username

/-- A session that is yet to connect. -/
def Awaits (broker : Broker) (id : SessionId) : Prop :=
  ∃ session, broker.registry.get? id = some session ∧ session.authenticated = false

theorem Awaits.identity?_eq_none (h : broker.Awaits id) : broker.identity? id = none := by
  obtain ⟨session, hlive, hnew⟩ := h
  rw [Broker.identity?, session?_of_get? hlive, Option.bind_some, Session.identity?, hnew,
    if_neg Bool.false_ne_true]

/-! ### Identities last -/

theorem identity?_of_get? (hlive : broker.registry.get? id = some session) :
    broker.identity? id = session.identity? := by
  rw [identity?, session?_of_get? hlive, Option.bind_some]

theorem identity?_congr (hdeparted : after.departed = broker.departed)
    (hlive : (after.registry.get? id).map Session.identity? =
      (broker.registry.get? id).map Session.identity?) :
    after.identity? id = broker.identity? id := by
  rw [identity?, identity?, session?_eq_or, session?_eq_or, hdeparted]
  cases hget : broker.registry.get? id with
  | none =>
    rw [hget, Option.map_none, Option.map_eq_none_iff] at hlive
    rw [hlive]
  | some session =>
    rw [hget, Option.map_some, Option.map_eq_some_iff] at hlive
    obtain ⟨changed, hchanged, hidentity⟩ := hlive
    rw [hchanged, Option.some_or, Option.some_or, Option.bind_some, Option.bind_some, hidentity]

/-- A session whose record changes keeps its identity if the new record has it. -/
theorem identity?_update {change : Session → Session} {table : SubscriptionTable}
    (hchange : ∀ session : Session, session.id = other → (change session).id = other)
    (hlive : broker.registry.get? other = some session)
    (hidentity : (change session).identity? = session.identity?) :
    { broker with registry := broker.registry.update other change, table }.identity? id =
      broker.identity? id := by
  refine identity?_congr rfl ?_
  simp only
  rw [Registry.get?_update hchange]
  by_cases hid : other = id
  · rw [if_pos hid, ← hid, hlive, Option.map_some, Option.map_some, Option.map_some, hidentity]
  · rw [if_neg hid]

theorem identity?_openSession (sink : Sink) (hfresh : broker.session? other = none) :
    (broker.openSession setting other sink).identity? id = broker.identity? id := by
  obtain ⟨hnone, hdeparted⟩ := session?_eq_none_iff.mp hfresh
  have hget : (broker.openSession setting other sink).registry.get? id =
      if other = id then some { id := other, connectTime := setting.clock.millis }
        else broker.registry.get? id := Registry.get?_add
  by_cases hid : other = id
  · rw [if_pos hid] at hget
    rw [identity?_of_get? hget, ← hid, identity?, hfresh]
    rfl
  · rw [if_neg hid] at hget
    exact identity?_congr rfl (by rw [hget])

theorem identity?_enrol {username : String} {version : Version}
    (hlive : broker.registry.get? session.id = some session)
    (henrol : broker.enrol session username version = .ok after) :
    after.identity? id =
      if session.id = id then some (username, version) else broker.identity? id := by
  by_cases hid : session.id = id
  · rw [if_pos hid, ← hid, identity?_of_get? (get?_of_enrol hlive henrol)]
    rfl
  · rw [if_neg hid]
    obtain ⟨registry, hbind, rfl⟩ := enrol_eq_ok_iff.mp henrol
    refine identity?_congr rfl ?_
    simp only
    rw [Registry.get?_of_bind hbind, Registry.get?_update fun _ heq ↦ by exact heq, if_neg hid]

/-- A change keeps every identity, or is a handshake of a session that had none. -/
theorem identity?_of_change (hchange : Change setting operation broker after) :
    after.identity? id = broker.identity? id ∨
      ∃ frame username version, operation = .handleFrame id frame ∧ broker.Awaits id ∧
        Accepted setting frame username version ∧
          after.identity? id = some (username, version) := by
  cases hchange with
  | none => exact .inl rfl
  | opened _ hfresh => exact .inl (identity?_openSession _ hfresh)
  | @enrolled session frame version token claims after hlive hnew hoperation hcommand hversion
      htoken hparse henrol =>
    rw [identity?_enrol hlive henrol]
    by_cases hid : session.id = id
    · subst hid
      refine .inr ⟨frame, claims.username, version, hoperation, ⟨session, hlive, hnew⟩, ?_,
        if_pos rfl⟩
      exact ⟨hcommand, Version.negotiate_eq_some_iff.mp hversion, token, claims,
        connectToken?_eq_some_iff.mp htoken, hparse, rfl⟩
    · exact .inl (if_neg hid)
  | @subscribed session subscribed frame subscription destination key hlive _ _ _ _ _ hsubscribe =>
    obtain ⟨-, hsubscribed⟩ := Session.subscribe?_eq_some_iff.mp hsubscribe
    refine .inl (identity?_update (fun _ _ ↦ ?_) hlive ?_)
    · rw [← hsubscribed]
    · rw [← hsubscribed]
      rfl
  | unsubscribed hlive _ _ _ _ => exact .inl (identity?_update (fun _ heq ↦ heq) hlive rfl)

theorem identity?_detach (h : Consistent broker) :
    (broker.detach other).2.identity? id = broker.identity? id := by
  by_cases hid : other = id
  · subst hid
    cases hlive : broker.registry.get? other with
    | none => rw [detach_of_none hlive]
    | some live =>
      rw [identity?, h.session?_detach_self hlive, identity?_of_get? hlive]
      rfl
  · rw [identity?, session?_detach_of_ne hid, identity?]

theorem identity?_of_outputs (h : Consistent broker)
    (houtputs : Outputs setting operation origin broker after) :
    after.identity? id = broker.identity? id := by
  induction houtputs with
  | refl => rfl
  | tail houtputs houtput ih =>
    rcases books_of_output houtput with ⟨hregistry, -, hdeparted⟩ | ⟨other, rfl⟩
    · rw [identity?_congr hdeparted (by rw [hregistry]), ih]
    · rw [identity?_detach (h.outputs houtputs), ih]

/-- An operation keeps every identity, or is a handshake of a session that had none. -/
theorem identity?_run (setting : Setting) (h : Consistent broker)
    (hfresh : operation.Fresh broker) (id : SessionId) :
    (broker.run setting operation).identity? id = broker.identity? id ∨
      ∃ frame username version, operation = .handleFrame id frame ∧ broker.Awaits id ∧
        Accepted setting frame username version ∧
          (broker.run setting operation).identity? id = some (username, version) := by
  obtain ⟨middle, hchange, houtputs⟩ := exists_change_outputs setting broker operation hfresh
  rw [identity?_of_outputs (h.change hchange) houtputs]
  exact identity?_of_change hchange

section

variable {allowed : Setting → Broker → Operation → Prop} {username : String} {version : Version}

theorem identity?_of_later {later : Broker} {identity : String × Version}
    (h : Reachable allowed broker) (hidentity : broker.identity? id = some identity)
    (hlater : Later allowed broker later) : later.identity? id = some identity := by
  induction hlater with
  | refl => exact hidentity
  | @step setting later operation hlater hfresh _ ih =>
    rcases identity?_run setting (h.later hlater).consistent hfresh id with
      hkept | ⟨_, _, _, -, hawaits, -⟩
    · rw [hkept, ih]
    · rw [hawaits.identity?_eq_none] at ih
      cases ih

/-- Behind an identity is a handshake that was accepted in an earlier state. -/
theorem exists_accepted (h : Reachable allowed broker)
    (hidentity : broker.identity? id = some (username, version)) :
    ∃ earlier setting frame, Reachable allowed earlier ∧ earlier.Awaits id ∧
      allowed setting earlier (.handleFrame id frame) ∧
        Accepted setting frame username version ∧
          Later allowed (earlier.run setting (.handleFrame id frame)) broker := by
  induction h with
  | start => cases hidentity
  | @step setting broker operation h hfresh hallowed ih =>
    rcases identity?_run setting h.consistent hfresh id with
      hkept | ⟨frame, user, agreed, rfl, hawaits, haccepted, hsettled⟩
    · obtain ⟨earlier, setting, frame, hearlier, hawaits, hasked, haccepted, hlater⟩ :=
        ih (hkept ▸ hidentity)
      exact ⟨earlier, setting, frame, hearlier, hawaits, hasked, haccepted,
        hlater.step hfresh hallowed⟩
    · rw [hsettled] at hidentity
      cases hidentity
      exact ⟨broker, setting, frame, h, hawaits, hallowed, haccepted, .refl⟩

end

/-! ### Frames of sessions without an identity -/

/-- The session is written to and may change; the table and all other sessions stay as they are. -/
structure Confined (id : SessionId) (broker after : Broker) : Prop where
  table : after.table = broker.table
  departed : after.departed = broker.departed
  closing : after.closing = broker.closing
  nextMessageId : after.nextMessageId = broker.nextMessageId
  sessions : ∀ other, other ≠ id → after.registry.get? other = broker.registry.get? other
  listed : ∀ username other, other ≠ id →
    (after.registry.Listed username other ↔ broker.registry.Listed username other)
  sinks : ∀ other, other ≠ id → after.sink other = broker.sink other
  journal : ∃ events, after.journal = broker.journal ++ events ∧
    ∀ event ∈ events, ∃ version frame outcome, event = .wrote id version frame outcome

theorem Confined.refl : Confined id broker broker :=
  ⟨rfl, rfl, rfl, rfl, fun _ _ ↦ rfl, fun _ _ _ ↦ Iff.rfl, fun _ _ ↦ rfl, [], by simp, by simp⟩

theorem Confined.trans {middle : Broker} (h : Confined id broker middle)
    (h' : Confined id middle after) : Confined id broker after := by
  obtain ⟨earlier, hearlier, hown⟩ := h.journal
  obtain ⟨later, hlater, hown'⟩ := h'.journal
  refine ⟨h'.table.trans h.table, h'.departed.trans h.departed, h'.closing.trans h.closing,
    h'.nextMessageId.trans h.nextMessageId,
    fun other hne ↦ (h'.sessions other hne).trans (h.sessions other hne),
    fun username other hne ↦ (h'.listed username other hne).trans (h.listed username other hne),
    fun other hne ↦ (h'.sinks other hne).trans (h.sinks other hne),
    earlier ++ later, by rw [hlater, hearlier, List.append_assoc], fun event hmem ↦ ?_⟩
  rcases List.mem_append.mp hmem with hmem | hmem
  · exact hown event hmem
  · exact hown' event hmem

theorem confined_send (setting : Setting) (broker : Broker) (session : Session) (frame : Frame) :
    Confined session.id broker (broker.send setting session frame).2 := by
  refine ⟨rfl, rfl, rfl, rfl, fun _ _ ↦ rfl, fun _ _ _ ↦ Iff.rfl, fun other hne ↦ ?_, _, rfl,
    fun event hmem ↦ ?_⟩
  · exact sink_setSink.trans (if_neg hne.symm)
  · obtain rfl := List.mem_singleton.mp hmem
    exact ⟨_, _, _, rfl⟩

theorem confined_reject (message : String) (detail : Option String) :
    Confined id broker (broker.reject setting id message detail).2 := by
  unfold reject
  cases hget : broker.registry.get? id with
  | none => exact .refl
  | some session =>
    obtain rfl := Registry.id_of_get? hget
    exact confined_send setting broker session _

theorem confined_sendReceipt :
    Confined session.id broker (broker.sendReceipt setting session frame) := by
  unfold sendReceipt
  cases frame.header? Header.receipt with
  | none => exact .refl
  | some receipt => exact confined_send setting broker session _

theorem confined_enrol {username : String} {version : Version}
    (henrol : broker.enrol session username version = .ok after) :
    Confined session.id broker after := by
  obtain ⟨registry, hbind, rfl⟩ := enrol_eq_ok_iff.mp henrol
  refine ⟨rfl, rfl, rfl, rfl, fun other hne ↦ ?_, fun owner other hne ↦ ?_, fun _ _ ↦ rfl, [],
    by simp, by simp⟩
  · simp only
    rw [Registry.get?_of_bind hbind, Registry.get?_update fun _ heq ↦ by exact heq,
      if_neg hne.symm]
  · simp only
    rw [Registry.listed_of_bind hbind, Registry.listed_update]
    simp [hne]

/-- A handshake concerns its own session, whatever comes of it. -/
theorem confined_handleConnect :
    Confined session.id broker (broker.handleConnect setting session frame).2 := by
  unfold handleConnect
  split
  · exact confined_reject _ _
  · rename_i version _
    split
    · exact confined_reject _ _
    · exact confined_reject _ _
    · rename_i claims _
      split
      · exact .refl
      · rename_i middle henrol
        have hconnected := (confined_enrol henrol).trans
          (confined_send setting middle (session.authenticate claims.username version)
            (.connected version session.id.text))
        rcases hsend : middle.send setting (session.authenticate claims.username version)
          (.connected version session.id.text) with ⟨outcome, after⟩
        rw [hsend] at hconnected
        have hid : (session.authenticate claims.username version).id = session.id := rfl
        simp only [hid, hsend]
        cases outcome with
        | written => exact hconnected.trans (hid ▸ confined_sendReceipt)
        | refused reason => exact hconnected
        | timedOut => exact hconnected

/-- A frame of a session without an identity concerns that session alone. -/
theorem confined_handleFrame (hnew : broker.identity? id = none) :
    Confined id broker (broker.handleFrame setting id frame).2 := by
  unfold handleFrame
  cases hget : broker.registry.get? id with
  | none => exact .refl
  | some session =>
    rw [identity?_of_get? hget, Session.identity?] at hnew
    have hunauthenticated : session.authenticated = false := by
      cases hauthenticated : session.authenticated with
      | false => rfl
      | true =>
        rw [hauthenticated, if_pos rfl] at hnew
        cases hnew
    obtain rfl := Registry.id_of_get? hget
    simp only [hunauthenticated, Bool.false_eq_true, if_false]
    split
    · exact confined_reject _ _
    · split
      · exact confined_handleConnect
      · exact confined_reject _ _

/-! ### Access -/

theorem exists_enrol (hlive : broker.registry.get? session.id = some session) (username : String)
    (version : Version) : ∃ after, broker.enrol session username version = .ok after := by
  have hupdated : (broker.registry.update session.id (·.authenticate username version)).get?
      session.id = some (session.authenticate username version) :=
    Registry.get?_update_self (fun _ heq ↦ heq) hlive
  rw [enrol, Registry.bind, Registry.contains, hupdated, Option.isSome_some, if_pos rfl]
  exact ⟨_, rfl⟩

theorem identity?_send {recipient : Session} :
    (broker.send setting recipient frame).2.identity? id = broker.identity? id :=
  identity?_congr rfl rfl

theorem identity?_sendReceipt {recipient : Session} :
    (broker.sendReceipt setting recipient frame).identity? id = broker.identity? id := by
  unfold sendReceipt
  cases frame.header? Header.receipt with
  | none => rfl
  | some receipt => exact identity?_send

/-- A handshake that holds gives its session the identity that it asks for. -/
theorem identity?_of_accepted {username : String} {version : Version} (h : broker.Awaits id)
    (haccepted : Accepted setting frame username version) :
    (broker.handleFrame setting id frame).2.identity? id = some (username, version) := by
  obtain ⟨session, hlive, hnew⟩ := h
  obtain rfl := Registry.id_of_get? hlive
  obtain ⟨token, claims, htoken, hparse, rfl⟩ := haccepted.token
  obtain ⟨middle, henrol⟩ := exists_enrol hlive claims.username version
  have hidentity : middle.identity? session.id = some (claims.username, version) := by
    rw [identity?_enrol hlive henrol, if_pos rfl]
  have hconnect : broker.handleFrame setting session.id frame =
      broker.handleConnect setting session frame := by
    rw [handleFrame, hlive]
    rcases haccepted.command with hcommand | hcommand <;> rw [hcommand] <;> simp [hnew] <;> rfl
  rw [hconnect, handleConnect_of_parse (Version.negotiate_eq_some_iff.mpr haccepted.version)
    (connectToken?_eq_some_iff.mpr htoken) hparse henrol]
  have hsent : (middle.send setting (session.authenticate claims.username version)
      (.connected version session.id.text)).2.identity? session.id =
        some (claims.username, version) := identity?_send.trans hidentity
  split
  · rename_i answered hsend
    rw [hsend] at hsent
    exact identity?_sendReceipt.trans hsent
  · rename_i answered _ hsend
    rw [hsend] at hsent
    exact hsent

/-- A session has an identity from an accepted handshake, at once and for good, and before that it
acts on nothing but itself. -/
structure Controlled (allowed : Setting → Broker → Operation → Prop) (broker : Broker) : Prop where
  accepted : ∀ id username version, broker.identity? id = some (username, version) →
    ∃ earlier setting frame, Reachable allowed earlier ∧ earlier.Awaits id ∧
      allowed setting earlier (.handleFrame id frame) ∧
        Accepted setting frame username version ∧
          Later allowed (earlier.run setting (.handleFrame id frame)) broker
  settled : ∀ setting id frame username version, broker.Awaits id →
    Accepted setting frame username version →
      (broker.run setting (.handleFrame id frame)).identity? id = some (username, version)
  lasting : ∀ id identity later, broker.identity? id = some identity →
    Later allowed broker later → later.identity? id = some identity
  confined : ∀ setting id frame, broker.identity? id = none →
    Confined id broker (broker.run setting (.handleFrame id frame))

/-- Whatever was asked of the broker, access to it is controlled. -/
theorem controlled_of_reachable {allowed : Setting → Broker → Operation → Prop}
    (h : Reachable allowed broker) : Controlled allowed broker where
  accepted _ _ _ hidentity := exists_accepted h hidentity
  settled _ _ _ _ _ hawaits haccepted := identity?_of_accepted hawaits haccepted
  lasting _ _ _ hidentity hlater := identity?_of_later h hidentity hlater
  confined _ _ _ hnew := confined_handleFrame hnew

/-- Two sessions of one user, in two versions. -/
theorem controlled_of_reachable_prepared :
    Reachable FromWire Forgery.prepared ∧ Controlled FromWire Forgery.prepared ∧
      Forgery.prepared.identity? Forgery.receiver = some ("u", .v10) ∧
      Forgery.prepared.identity? Forgery.sender = some ("u", .v12) :=
  ⟨Forgery.reachable_prepared, controlled_of_reachable Forgery.reachable_prepared, rfl, rfl⟩

end Broker

end StompBroker
