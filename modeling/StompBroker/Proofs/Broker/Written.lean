import StompBroker.Proofs.Broker.Journal
import StompBroker.Proofs.Frame.Server
import StompBroker.Proofs.Token.Authenticator

/-!
# What clients read of what the broker writes

The text of a header comes in as one version writes it and goes out as another one does. A broker
whose frames come `FromWire` gives a client of version 1.1 or 1.2 exactly the frames that it built,
and a client of version 1.0 those whose values are plain, since that version has no escapes
(`decode_written_iff`).

What can break a line of a 1.0 client is known, too: the content type of a message, which its sender
chose, and the name of the client's own user. Everything else that the broker copies went through a
line of that client before, because it subscribed to it (`Legible`) or sent it itself.
-/

set_option autoImplicit false

namespace StompBroker.Broker

section

variable {setting : Setting} {operation : Operation} {origin broker after : Broker}

/-- A frame that was read off the wire in the version of its session. -/
def Arrived (session : Session) (frame : Frame) : Prop :=
  ∃ codec : Codec, ∃ buffer rest, codec.version = session.version ∧
    codec.decode buffer = .frame frame rest

/-- Clients speak through codecs, and the ids of sessions fit on a line. -/
def FromWire (_ : Setting) (broker : Broker) : Operation → Prop
  | .openSession id _ => PlainValue id.text
  | .handleFrame id frame =>
    ∀ session, broker.registry.get? id = some session → Arrived session frame
  | _ => True

/-- No header of the frame holds a LF. -/
def Unbroken (frame : Frame) : Prop :=
  ∀ header ∈ frame.headers, '\n' ∉ header.2.toList

theorem Arrived.unbroken {session : Session} {frame : Frame} (h : Arrived session frame)
    (hescaped : Codec.escapes session.version frame.command = false) : Unbroken frame := by
  obtain ⟨codec, buffer, rest, hversion, hdecode⟩ := h
  rw [← hversion] at hescaped
  exact fun header hmem ↦ (Codec.newline_not_mem_of_decode hdecode hescaped hmem).2

theorem escapes_of_v10 (command : Command) : Codec.escapes .v10 command = false := rfl

theorem Arrived.unbroken_of_v10 {session : Session} {frame : Frame} (h : Arrived session frame)
    (hversion : session.version = .v10) : Unbroken frame := by
  refine h.unbroken ?_
  rw [hversion]
  exact escapes_of_v10 _

theorem escapes_of_isConnectFamily (version : Version) {command : Command}
    (h : command.isConnectFamily = true) : Codec.escapes version command = false := by
  rw [Codec.escapes, h]
  simp

/-! ### Subscriptions of 1.0 clients -/

/-- The id of the session is plain, and what it subscribed to in 1.0 holds no LF. -/
structure LegibleSession (session : Session) : Prop where
  id : PlainValue session.id.text
  subscriptions : session.version = .v10 → ∀ subscription key,
    session.subscriptions.lookup subscription = some key →
      '\n' ∉ subscription.toList ∧ '\n' ∉ key.toList

/-- All live sessions are legible. -/
def Legible (broker : Broker) : Prop :=
  ∀ id session, broker.registry.get? id = some session → LegibleSession session

theorem newline_mem_userQueue_iff {queue : String} :
    '\n' ∈ (userQueue queue).toList ↔ '\n' ∈ queue.toList := by
  rw [userQueue, String.toList_append, List.mem_append]
  exact or_iff_right (by decide)

theorem newline_mem_userDestination_iff {username queue : String} :
    '\n' ∈ (userDestination username queue).toList ↔
      '\n' ∈ username.toList ∨ '\n' ∈ queue.toList := by
  rw [userDestination, String.toList_append, String.toList_append, List.mem_append, List.mem_append,
    or_assoc]
  exact or_iff_right (by decide)

/-- A key has no LF that its destination has not. -/
theorem newline_not_mem_of_subscriptionKey? {username destination key : String}
    (h : subscriptionKey? username destination = some key) (hnewline : '\n' ∉ destination.toList) :
    '\n' ∉ key.toList := by
  rcases subscriptionKey?_eq_some_iff.mp h with ⟨-, rfl⟩ | hparse
  · exact hnewline
  · obtain ⟨queue, rfl, rfl⟩ := Destination.parse_eq_userScoped hparse
    rw [newline_mem_userDestination_iff, not_or] at hnewline
    rw [newline_mem_userQueue_iff]
    exact hnewline.2

theorem LegibleSession.authenticate {session : Session} (h : LegibleSession session)
    (hempty : session.subscriptions = []) (username : String) (version : Version) :
    LegibleSession (session.authenticate username version) := by
  refine ⟨h.id, fun _ subscription key hlookup ↦ ?_⟩
  rw [Session.authenticate, hempty] at hlookup
  cases hlookup

/-- A subscription is legible if the frame that asked for it is unbroken. -/
theorem LegibleSession.subscribe? {session subscribed : Session} {frame : Frame}
    {added destination key : String} (h : LegibleSession session)
    (hframe : session.version = .v10 → Unbroken frame)
    (hid : frame.header? Header.id = some added)
    (hdestination : frame.header? Header.destination = some destination)
    (hkey : subscriptionKey? session.username destination = some key)
    (hsubscribe : session.subscribe? added key = some subscribed) : LegibleSession subscribed := by
  obtain ⟨-, hsubscribed⟩ := Session.subscribe?_eq_some_iff.mp hsubscribe
  have hsame : subscribed.id = session.id := by rw [← hsubscribed]
  have hversions : subscribed.version = session.version := by rw [← hsubscribed]
  refine ⟨by rw [hsame]; exact h.id, fun hversion subscription found hlookup ↦ ?_⟩
  rw [hversions] at hversion
  rw [Session.lookup_of_subscribe? hsubscribe] at hlookup
  split at hlookup
  · rename_i hadded
    subst hadded
    cases hlookup
    have hunbroken := hframe hversion
    refine ⟨hunbroken _ (Frame.mem_of_header? hid), ?_⟩
    exact newline_not_mem_of_subscriptionKey? hkey
      (hunbroken _ (Frame.mem_of_header? hdestination))
  · exact h.subscriptions hversion subscription found hlookup

theorem LegibleSession.unsubscribe {session : Session} (h : LegibleSession session)
    (dropped : String) : LegibleSession (session.unsubscribe dropped) := by
  refine ⟨h.id, fun hversion subscription key hlookup ↦ ?_⟩
  rw [Session.lookup_unsubscribe] at hlookup
  split at hlookup
  · cases hlookup
  · exact h.subscriptions hversion subscription key hlookup

theorem legible_empty : Legible {} := by
  simp [Legible, Registry.get?]

theorem Legible.change (h : Legible broker) (hconsistent : Consistent broker)
    (hwire : FromWire setting broker operation)
    (hchange : Change setting operation broker after) : Legible after := by
  intro id session hlive
  obtain rfl := Registry.id_of_get? hlive
  cases recorded_of_change hchange hlive with
  | kept hbefore => exact h _ _ hbefore
  | opened hoperation hsession =>
    subst hoperation
    refine ⟨hwire, fun hversion ↦ ?_⟩
    rw [← hsession] at hversion
    cases hversion
  | enrolled hbefore hnew _ _ hsession =>
    rw [← hsession]
    exact (h _ _ hbefore).authenticate (hconsistent.unauthenticated _ _ hbefore hnew) _ _
  | subscribed hbefore hoperation hid hdestination hkey hsubscribe =>
    subst hoperation
    exact (h _ _ hbefore).subscribe? (hwire _ hbefore).unbroken_of_v10 hid hdestination hkey
      hsubscribe
  | unsubscribed hbefore _ hsession =>
    rw [← hsession]
    exact (h _ _ hbefore).unsubscribe _

theorem Legible.output (h : Legible broker)
    (houtput : Output setting operation origin broker after) : Legible after :=
  fun id session hlive ↦ h id session (get?_of_output houtput hlive)

theorem Reachable.legible (h : Reachable FromWire broker) : Legible broker :=
  h.invariant legible_empty
    (fun hreachable hwire hlegible hchange ↦ hlegible.change hreachable.consistent hwire hchange)
    fun hlegible houtput ↦ hlegible.output houtput

/-! ### What is written -/

theorem Sent.serverFrame {session : Session} {frame : Frame}
    (h : Sent operation origin session frame) : ServerFrame frame := by
  cases h with
  | reply hreply =>
    cases hreply with
    | connected => exact .connected _ _
    | receipt _ _ => exact .receipt _
    | error detail _ => exact .error _ detail
  | message number contentType body _ => exact .message _ _ _ contentType body

theorem plainValue_of_mem_connected {version : Version} {id : String} (hid : PlainValue id)
    {header : String × String} (hmem : header ∈ (Frame.connected version id).headers) :
    PlainValue header.2 := by
  simp only [Frame.connected, List.mem_cons, List.not_mem_nil, or_false] at hmem
  rcases hmem with rfl | rfl
  · cases version <;> exact ⟨by decide, by decide⟩
  · exact hid

/-- The frame that is never escaped holds nothing that would need it. -/
theorem Sent.plain_of_isConnectFamily {session : Session} {frame : Frame}
    (h : Sent operation origin session frame) (hlegible : LegibleSession session)
    (hcommand : frame.command.isConnectFamily = true) {header : String × String}
    (hmem : header ∈ frame.headers) : PlainValue header.2 := by
  cases h with
  | message number contentType body _ => cases hcommand
  | reply hreply =>
    cases hreply with
    | connected => exact plainValue_of_mem_connected hlegible.id hmem
    | receipt _ _ => cases hcommand
    | error detail _ => cases detail <;> cases hcommand

/-- A session in 1.0 gets receipts only for frames whose headers hold no LF. -/
theorem unbroken_of_change (hwire : FromWire setting broker operation)
    (hchange : Change setting operation broker after) {session : Session} {frame : Frame}
    (hlive : after.registry.get? session.id = some session) (hversion : session.version = .v10)
    (hoperation : operation = .handleFrame session.id frame) : Unbroken frame := by
  subst hoperation
  have hsame : ∀ earlier, broker.registry.get? session.id = some earlier →
      earlier.version = session.version → Unbroken frame := by
    intro earlier hbefore hearlier
    exact (hwire earlier hbefore).unbroken_of_v10 (hearlier.trans hversion)
  cases recorded_of_change hchange hlive with
  | kept hbefore => exact hsame session hbefore rfl
  | opened hopened _ => cases hopened
  | enrolled hbefore _ hframe hcommand _ =>
    cases hframe
    exact (hwire _ hbefore).unbroken (escapes_of_isConnectFamily _ hcommand)
  | subscribed hbefore _ _ _ _ hsubscribe =>
    obtain ⟨-, hsession⟩ := Session.subscribe?_eq_some_iff.mp hsubscribe
    exact hsame _ hbefore (by rw [← hsession])
  | unsubscribed hbefore _ hsession => exact hsame _ hbefore (by rw [← hsession]; rfl)

theorem newline_not_mem_toString (n : Nat) : '\n' ∉ (toString n).toList := by
  intro hmem
  have hdigit := Text.isDigit_of_mem_toString hmem
  cases hdigit

/-- What answers a client holds no LF if the frame that it answers holds none. -/
theorem Reply.unbroken {session : Session} {frame : Frame} (h : Reply operation session frame)
    (hlegible : LegibleSession session)
    (hasked : ∀ asking, operation = .handleFrame session.id asking → Unbroken asking) :
    Unbroken frame := by
  intro header hmem
  cases h with
  | connected => exact (plainValue_of_mem_connected hlegible.id hmem).1
  | receipt hoperation hreceipt =>
    simp only [Frame.receipt, List.mem_singleton] at hmem
    subst hmem
    have hunbroken := hasked _ hoperation _ (Frame.mem_of_header? hreceipt)
    exact hunbroken
  | @error message detail hmessage =>
    have hrefusals : ∀ refusal ∈ refusals, '\n' ∉ refusal.toList := by decide
    have hplain : '\n' ∉ "text/plain".toList := by decide
    cases detail with
    | none =>
      simp only [Frame.error, List.mem_singleton] at hmem
      subst hmem
      exact hrefusals message hmessage
    | some detail =>
      simp only [Frame.error, List.mem_cons, List.not_mem_nil, or_false] at hmem
      rcases hmem with rfl | rfl | rfl
      · exact hrefusals message hmessage
      · exact hplain
      · exact newline_not_mem_toString _

/-- A LF in the destination under which a 1.0 session is addressed is one of its user's name. -/
theorem Addressed.newline {session : Session} {destination subscription : String}
    (h : Addressed broker session destination subscription) (hconsistent : Consistent broker)
    (hlegible : LegibleSession session)
    (hlive : broker.registry.get? session.id = some session) (hversion : session.version = .v10) :
    '\n' ∉ subscription.toList ∧
      ('\n' ∈ destination.toList → '\n' ∈ session.username.toList) := by
  obtain ⟨key, hentry, hdestination⟩ := h
  have hlookup := (hconsistent.mem_entries_iff hlive).mp hentry
  obtain ⟨hsubscription, hkey⟩ := hlegible.subscriptions hversion subscription key hlookup
  refine ⟨hsubscription, fun hnewline ↦ ?_⟩
  rcases hdestination with rfl | ⟨username, queue, rfl, rfl, hlisted⟩
  · exact absurd hnewline hkey
  · obtain ⟨-, rfl⟩ := (hconsistent.listed_iff hlive).mp hlisted
    rw [newline_mem_userQueue_iff] at hkey
    exact (newline_mem_userDestination_iff.mp hnewline).resolve_right hkey

/-- To a 1.0 client a LF gets only in a message: in its content type, or in the name of the client's
user. -/
theorem Sent.newline {session : Session} {frame : Frame}
    (h : Sent operation after session frame) (hwire : FromWire setting broker operation)
    (hchange : Change setting operation broker after) (hconsistent : Consistent after)
    (hlegible : LegibleSession session)
    (hlive : after.registry.get? session.id = some session) (hversion : session.version = .v10)
    {header : String × String} (hmem : header ∈ frame.headers)
    (hnewline : '\n' ∈ header.2.toList) :
    frame.command = .message ∧
      (header.1 = Header.contentType ∨
        header.1 = Header.destination ∧ '\n' ∈ session.username.toList) := by
  cases h with
  | reply hreply =>
    have hunbroken := hreply.unbroken hlegible fun asking hoperation ↦
      unbroken_of_change hwire hchange hlive hversion hoperation
    exact absurd hnewline (hunbroken header hmem)
  | message number contentType body haddressed =>
    refine ⟨rfl, ?_⟩
    obtain ⟨hsubscription, hdestination⟩ :=
      haddressed.newline hconsistent hlegible hlive hversion
    simp only [Frame.message, List.mem_cons, List.not_mem_nil, or_false] at hmem
    rcases hmem with rfl | rfl | rfl | rfl | rfl
    · exact .inr ⟨rfl, hdestination hnewline⟩
    · exact absurd hnewline hsubscription
    · exact absurd hnewline (newline_not_mem_toString number)
    · exact .inl rfl
    · exact absurd hnewline (newline_not_mem_toString _)

/-- What the client of a session makes of a frame that is written to it. -/
structure ReadBack (session : Session) (version : Version) (frame : Frame) : Prop where
  spoken : session.version = version
  decode_iff :
    Codec.decode ⟨version, maxUnsigned64⟩ (Codec.encode version frame) = .frame frame [] ↔
      (Codec.encode version frame).length ≤ maxUnsigned64 ∧
        (version = .v10 → ∀ header ∈ frame.headers, PlainValue header.2)
  newline : version = .v10 → ∀ header ∈ frame.headers, '\n' ∈ header.2.toList →
    frame.command = .message ∧
      (header.1 = Header.contentType ∨
        header.1 = Header.destination ∧ '\n' ∈ session.username.toList)

/-- Only version 1.0 leaves the headers of a server's frames as they are. -/
theorem Sent.decode_encode_iff {session : Session} {frame : Frame}
    (h : Sent operation origin session frame) (hlegible : LegibleSession session) :
    Codec.decode ⟨session.version, maxUnsigned64⟩ (Codec.encode session.version frame) =
        .frame frame [] ↔
      (Codec.encode session.version frame).length ≤ maxUnsigned64 ∧
        (session.version = .v10 → ∀ header ∈ frame.headers, PlainValue header.2) := by
  rw [Codec.decode_encode_iff_of_server h.serverFrame]
  refine and_congr_right fun _ ↦ ⟨fun hplain hversion ↦ hplain ?_, fun hplain hescaped ↦ ?_⟩
  · rw [hversion]
    exact escapes_of_v10 _
  · cases hcommand : frame.command.isConnectFamily with
    | true => exact fun header hmem ↦ h.plain_of_isConnectFamily hlegible hcommand hmem
    | false =>
      refine hplain ?_
      cases hversion : session.version with
      | v10 => rfl
      | v11 =>
        rw [hversion, Codec.escapes, hcommand] at hescaped
        cases hescaped
      | v12 =>
        rw [hversion, Codec.escapes, hcommand] at hescaped
        cases hescaped

/-- Every frame that a reachable broker writes is read back as it was built, unless its session uses
1.0 and one of its values is not plain; a LF is in one only if its sender or the user's name put it
there. -/
theorem decode_written_iff (setting : Setting) (h : Reachable FromWire broker)
    (operation : Operation) (hfresh : operation.Fresh broker)
    (hwire : FromWire setting broker operation) :
    ∃ events, (broker.run setting operation).journal = broker.journal ++ events ∧
      ∀ id version frame outcome, .wrote id version frame outcome ∈ events →
        ∃ session, (broker.run setting operation).session? id = some session ∧
          ReadBack session version frame := by
  obtain ⟨middle, events, hchange, hjournal, hcaused, hkept⟩ :=
    @exists_journal_run setting broker h.consistent operation hfresh
  have hconsistent := h.consistent.change hchange
  have hmiddle := h.legible.change h.consistent hwire hchange
  refine ⟨events, hjournal, fun id version frame outcome hmem ↦ ?_⟩
  obtain ⟨session, hget, rfl, hsent⟩ := hcaused _ hmem
  have hlegible := hmiddle _ _ hget
  obtain rfl := Registry.id_of_get? hget
  obtain ⟨kept, hsession, hversion, husername⟩ := hkept _ _ (session?_of_get? hget)
  refine ⟨kept, hsession, hversion, hsent.decode_encode_iff hlegible, ?_⟩
  intro hversion header hmem hnewline
  rw [husername]
  exact hsent.newline hwire hchange hconsistent hlegible hget hversion hmem hnewline

end

/-! ### A header that its sender forged -/

/-- A frame that can be written can also arrive. -/
theorem arrived_of_encode {session : Session} {frame : Frame}
    (hlengths : Codec.declaredLengths frame.headers = []) (hbody : 0x00 ∉ frame.body)
    (hplain : Codec.escapes session.version frame.command = false →
      ∀ header ∈ frame.headers, Codec.PlainHeader header) : Arrived session frame := by
  have hspelled := @Codec.spelled_encode_append
    ⟨session.version, (Codec.encode session.version frame).length⟩ frame
    (.terminated hlengths hbody) hplain []
  refine ⟨⟨session.version, (Codec.encode session.version frame).length⟩,
    Codec.encode session.version frame ++ [], [], rfl, Codec.decode_eq_frame_iff.mpr ⟨?_, ?_⟩⟩
  · rw [Codec.skipLineEnds_encode_append]
    exact Codec.readFrame_eq_complete_iff.mpr ⟨hspelled, fun hne ↦ absurd hlengths hne⟩
  · rw [Codec.skipLineEnds_encode_append]
    simp

namespace Forgery

def setting : Setting where
  auth := ⟨"i", 60, []⟩
  clock := ⟨0⟩
  routes := ⟨[]⟩
  writeTimeout := 1000

def claims : Claims := setting.auth.claimsFor setting.clock ⟨1, "u"⟩

def receiver : SessionId := ⟨"r"⟩

def sender : SessionId := ⟨"s"⟩

def fresh (id : SessionId) : Session := { id, connectTime := 0 }

def connect (token versions : String) : Frame where
  command := .connect
  headers := [(Header.acceptVersion, versions), (Header.passcode, token)]
  body := []

def subscribe : Frame where
  command := .subscribe
  headers := [(Header.id, "0"), (Header.destination, "/topic/x")]
  body := []

/-- A message whose content type holds a second line. -/
def send : Frame where
  command := .send
  headers := [(Header.destination, "/topic/x"), (Header.contentType, "a\nforged:b")]
  body := []

/-- The receiver has connected, in 1.0. -/
def connected : Broker where
  registry := { sessions := [(fresh receiver).authenticate "u" .v10], users := [("u", [receiver])] }
  sinks := [(receiver, { begun := 1 })]
  journal := [.wrote receiver .v10 (.connected .v10 "r") .written]

/-- The receiver has subscribed, and the sender has not connected yet. -/
def subscribed : Broker where
  registry :=
    { sessions :=
        [{ (fresh receiver).authenticate "u" .v10 with subscriptions := [("0", "/topic/x")] },
          fresh sender]
      users := [("u", [receiver])] }
  table := ⟨[("/topic/x", [⟨receiver, "0"⟩])]⟩
  sinks := [(receiver, { begun := 1 }), (sender, {})]
  journal := [.wrote receiver .v10 (.connected .v10 "r") .written]

/-- Both have connected, the sender in 1.2. -/
def prepared : Broker where
  registry :=
    { sessions :=
        [{ (fresh receiver).authenticate "u" .v10 with subscriptions := [("0", "/topic/x")] },
          (fresh sender).authenticate "u" .v12]
      users := [("u", [receiver, sender])] }
  table := ⟨[("/topic/x", [⟨receiver, "0"⟩])]⟩
  sinks := [(receiver, { begun := 1 }), (sender, { begun := 1 })]
  journal :=
    [.wrote receiver .v10 (.connected .v10 "r") .written,
      .wrote sender .v12 (.connected .v12 "s") .written]

/-- What the broker builds for the receiver. -/
def built : Frame := .message "/topic/x" "0" "1" "a\nforged:b" []

/-- What the receiver reads. -/
def read : Frame where
  command := .message
  headers :=
    [(Header.destination, "/topic/x"), (Header.subscription, "0"), (Header.messageId, "1"),
      (Header.contentType, "a"), ("forged", "b"), (Header.contentLength, "0")]
  body := []

section Connecting

variable {token : String}

theorem connectToken?_connect (hne : token.isEmpty = false) (versions : String) :
    connectToken? (connect token versions) = some token := by
  simp [connectToken?, connect, Frame.header?, Header.authorization, Header.acceptVersion,
    Header.passcode, hne]

/-- The receiver connects over any sink that takes the first write. -/
theorem run_connect {sink used : Sink} {freeAt : Nat}
    (hwrite : sink.write 0 setting.writeTimeout = (.written, freeAt, used))
    (hne : token.isEmpty = false)
    (hparse : setting.auth.parse setting.clock token = .ok claims) :
    (run setting {} (.openSession receiver sink)).run setting
      (.handleFrame receiver (connect token "1.0")) =
        { connected with sinks := [(receiver, used)] } := by
  have hversion : Version.negotiate ((connect token "1.0").header? Header.acceptVersion) =
      some .v10 := by with_unfolding_all rfl
  have henrol : (run setting {} (.openSession receiver sink)).enrol (fresh receiver)
      claims.username .v10 =
        .ok { connected with sinks := [(receiver, sink)], journal := [] } := rfl
  have hconnect := handleConnect_of_parse hversion (connectToken?_connect hne _) hparse henrol
  have hsink : Broker.sink { connected with sinks := [(receiver, sink)], journal := [] }
      ((fresh receiver).authenticate claims.username .v10).id = sink := rfl
  have hsend : Broker.send setting { connected with sinks := [(receiver, sink)], journal := [] }
      ((fresh receiver).authenticate claims.username .v10)
      (.connected .v10 (fresh receiver).id.text) =
        (.written, { connected with sinks := [(receiver, used)] }) := by
    rw [Broker.send, write, hsink, hwrite]
    rfl
  change (handleConnect setting _ (fresh receiver) (connect token "1.0")).2 = _
  rw [hconnect, hsend]
  rfl

theorem run_connected (hne : token.isEmpty = false)
    (hparse : setting.auth.parse setting.clock token = .ok claims) :
    (run setting {} (.openSession receiver {})).run setting
      (.handleFrame receiver (connect token "1.0")) = connected :=
  run_connect rfl hne hparse

theorem run_prepared (hne : token.isEmpty = false)
    (hparse : setting.auth.parse setting.clock token = .ok claims) :
    subscribed.run setting (.handleFrame sender (connect token "1.2")) = prepared := by
  have hversion : Version.negotiate ((connect token "1.2").header? Header.acceptVersion) =
      some .v12 := by with_unfolding_all rfl
  have henrol : subscribed.enrol (fresh sender) claims.username .v12 =
      .ok { prepared with sinks := subscribed.sinks, journal := subscribed.journal } := rfl
  have hconnect := handleConnect_of_parse hversion (connectToken?_connect hne _) hparse henrol
  change (handleConnect setting _ (fresh sender) (connect token "1.2")).2 = prepared
  rw [hconnect]
  rfl

theorem arrived_connect {session : Session} {versions : String}
    (htoken : PlainValue token) (hversions : PlainValue versions) :
    Arrived session (connect token versions) := by
  have hnames : ∀ name ∈ [Header.acceptVersion, Header.passcode],
      ':' ∉ name.toList ∧ '\n' ∉ name.toList := by decide
  refine arrived_of_encode rfl (by simp [connect]) fun _ header hmem ↦ ?_
  simp only [connect, List.mem_cons, List.not_mem_nil, or_false] at hmem
  rcases hmem with rfl | rfl
  · exact ⟨(hnames _ (by simp)).1, (hnames _ (by simp)).2, hversions.1, hversions.2⟩
  · exact ⟨(hnames _ (by simp)).1, (hnames _ (by simp)).2, htoken.1, htoken.2⟩

end Connecting

/-- A token for the user of both sessions. -/
def token : String := WebToken.sign setting.auth.key claims.toJson

theorem parse_token : setting.auth.parse setting.clock token = .ok claims := by
  have hread : WebToken.readClaims setting.auth.issuer
      (WebToken.writePart (Json.write claims.toJson)) = .ok claims := by decide +kernel
  exact Authenticator.parse_sign hread (by decide) (by decide)

theorem plainValue_token : PlainValue token := by
  constructor
  · intro hmem
    rcases WebToken.mem_sign hmem with hchars | hpoint
    · exact absurd hchars (by decide)
    · cases hpoint
  · intro hlast
    rcases WebToken.mem_sign (List.mem_of_getLast? hlast) with hchars | hpoint
    · exact absurd hchars (by decide)
    · cases hpoint

theorem reachable_prepared : Reachable FromWire prepared := by
  have hne : token.isEmpty = false := WebToken.isEmpty_sign _ _
  have hconnected : Reachable FromWire connected := by
    rw [← run_connected hne parse_token]
    refine .step (.step .start rfl ⟨by decide, by decide⟩) trivial fun session _ ↦ ?_
    exact arrived_connect plainValue_token ⟨by decide, by decide⟩
  have hsubscribed : Reachable FromWire subscribed := by
    have hrun : (connected.run setting (.handleFrame receiver subscribe)).run setting
        (.openSession sender {}) = subscribed := rfl
    rw [← hrun]
    refine .step (.step hconnected trivial fun session _ ↦ ?_) rfl ⟨by decide, by decide⟩
    refine arrived_of_encode rfl (by simp [subscribe]) fun _ header hmem ↦ ?_
    simp only [subscribe, List.mem_cons, List.not_mem_nil, or_false] at hmem
    rcases hmem with rfl | rfl <;> exact ⟨by decide, by decide, by decide, by decide⟩
  rw [← run_prepared hne parse_token]
  refine .step hsubscribed trivial fun session _ ↦ ?_
  exact arrived_connect plainValue_token ⟨by decide, by decide⟩

/-- A connection that takes one write. -/
def unreliable : Sink := .after 1 (.refuses "sink failed") .closes

/-- The receiver has connected, and that was the last that it was written. -/
def exhausted : Broker :=
  { connected with sinks := [(receiver, { unreliable with begun := 1 })] }

theorem reachable_exhausted : Reachable Anything exhausted := by
  have hopened : Reachable Anything (run Forgery.setting {} (.openSession receiver unreliable)) :=
    .step .start rfl trivial
  have hconnected : (run Forgery.setting {} (.openSession receiver unreliable)).run Forgery.setting
      (.handleFrame receiver (connect token "1.0")) = exhausted :=
    run_connect rfl (WebToken.isEmpty_sign _ _) parse_token
  rw [← hconnected]
  exact .step hopened trivial trivial

theorem fromWire_send : FromWire setting prepared (.handleFrame sender send) := by
  intro session hlive
  obtain rfl : (fresh sender).authenticate "u" .v12 = session := Option.some.inj hlive
  refine arrived_of_encode rfl (by simp [send]) fun hescaped ↦ ?_
  cases hescaped

end Forgery

/-- The broker in which a 1.2 client is about to send what a 1.0 client receives. -/
theorem decode_written_iff_forgery :
    let operation : Operation := .handleFrame Forgery.sender Forgery.send
    Reachable FromWire Forgery.prepared ∧ operation.Fresh Forgery.prepared ∧
      FromWire Forgery.setting Forgery.prepared operation ∧
        ∃ events, (Forgery.prepared.run Forgery.setting operation).journal =
            Forgery.prepared.journal ++ events ∧
          ∀ id version frame outcome, .wrote id version frame outcome ∈ events →
            ∃ session, (Forgery.prepared.run Forgery.setting operation).session? id =
                some session ∧ ReadBack session version frame :=
  ⟨Forgery.reachable_prepared, trivial, Forgery.fromWire_send,
    decode_written_iff Forgery.setting Forgery.reachable_prepared _ trivial Forgery.fromWire_send⟩

/-- The 1.0 client reads a header more than the broker has written. -/
theorem read_ne_built_of_forgery :
    Reachable FromWire Forgery.prepared ∧
      FromWire Forgery.setting Forgery.prepared (.handleFrame Forgery.sender Forgery.send) ∧
      (Forgery.prepared.registry.get? Forgery.receiver).map (·.version) = some .v10 ∧
      (Forgery.prepared.run Forgery.setting (.handleFrame Forgery.sender Forgery.send)).journal =
        Forgery.prepared.journal ++ [.wrote Forgery.receiver .v10 Forgery.built .written] ∧
      Codec.decode ⟨.v10, maxUnsigned64⟩ (Codec.encode .v10 Forgery.built) =
        .frame Forgery.read [] ∧
      Forgery.read ≠ Forgery.built :=
  ⟨Forgery.reachable_prepared, Forgery.fromWire_send, rfl, rfl, by decide +kernel,
    by decide⟩

end StompBroker.Broker
