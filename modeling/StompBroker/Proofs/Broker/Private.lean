import StompBroker.Proofs.Broker.Fanout
import StompBroker.Proofs.Broker.Online

/-!
# Private messages

All users share the key of a private queue, so a private message finds its way by two lists: the
table's subscribers under the key, and the registry's sessions of the recipient. The subscriptions
in both are its `recipients`, which in a reachable broker are the entries under the key that the
recipient's sessions hold (`mem_recipients_iff`). A message that is `Routed` is written once to each
of them.

What a SEND of a client sets off is one of three things (`Relayed`): nothing, a message published
under a key that is not private, or a private message for the user that its destination names. So a
private subscription receives from clients only what they sent to its own user
(`isolated_of_reachable`).
-/

set_option autoImplicit false

namespace StompBroker

/-! ### The endpoints of every broker -/

namespace AppHandler

/-- The texts of both endpoints are patterns, and this is what they are read as. -/
theorem entries_defaults :
    defaults.entries =
      [(⟨"/app/sendToAll", [.literal "app", .literal "sendToAll"]⟩, toAll),
        (⟨"/app/sendToUser/\x7busername\x7d",
          [.literal "app", .literal "sendToUser", .capture "username"]⟩, toUser)] := by
  with_unfolding_all rfl

/-- The parts of the path behind the first slash of the endpoint that greets a user. -/
theorem toList_greetingPath (username : String) :
    ("app/sendToUser/" ++ username).toList =
      ['/'].intercalate (["app", "sendToUser", username].map String.toList) := by
  simp [List.intercalate, List.intersperse]

theorem stripStart?_greetingEndpoint (username : String) :
    Text.stripStart? "/" (Destination.greetingEndpoint username) =
      some ("app/sendToUser/" ++ username) := by
  have hstart : "/app/sendToUser/" = "/" ++ "app/sendToUser/" := rfl
  rw [Text.stripStart?_eq_some_iff]
  exact (congrArg (· ++ username) hstart).trans String.append_assoc

theorem resolve?_greetingEndpoint {username : String} (hname : username ≠ "")
    (hslash : '/' ∉ username.toList) :
    defaults.resolve? (Destination.greetingEndpoint username) =
      some (toUser, [("username", username)]) := by
  have hpath := stripStart?_greetingEndpoint username
  have hslashes : ∀ part ∈ ["app", "sendToUser", username], '/' ∉ part.toList := by
    intro part hmem
    simp only [List.mem_cons, List.not_mem_nil, or_false] at hmem
    rcases hmem with rfl | rfl | rfl
    · decide
    · decide
    · exact hslash
  have hparts : Text.split '/' ("app/sendToUser/" ++ username) =
      ["app", "sendToUser", username] := by
    have hsplit := Text.split_intercalate (List.cons_ne_nil _ _) hslashes
    rwa [← toList_greetingPath, String.ofList_toList] at hsplit
  have hcapture : username.isEmpty = false := by
    rw [Bool.eq_false_iff, ne_eq, String.isEmpty_iff]
    exact hname
  simp [Routes.resolve?, entries_defaults, RoutePattern.match?, hpath, hparts,
    RoutePattern.matchSegments, RoutePattern.assign, hcapture]

theorem of_matchSegments_greeting {parts : List String} {captures : List (String × String)}
    (h : RoutePattern.matchSegments [] [.literal "app", .literal "sendToUser", .capture "username"]
      parts = some captures) :
    ∃ username, parts = ["app", "sendToUser", username] ∧ captures = [("username", username)] := by
  match parts with
  | [] => cases h
  | [first] =>
    simp [RoutePattern.matchSegments] at h
  | [first, second] =>
    simp [RoutePattern.matchSegments] at h
  | [first, second, username] =>
    simp only [RoutePattern.matchSegments, RoutePattern.assign] at h
    split at h
    · rename_i hfirst
      split at h
      · rename_i hsecond
        split at h
        · cases h
        · cases h
          exact ⟨username, by rw [hfirst, hsecond], rfl⟩
      · cases h
    · cases h
  | first :: second :: third :: fourth :: rest =>
    simp [RoutePattern.matchSegments] at h

/-- The endpoints tell everybody, or greet the user whom their path names. -/
theorem of_resolve?_defaults {path : String} {handler : AppHandler}
    {captures : List (String × String)} (h : defaults.resolve? path = some (handler, captures)) :
    handler = toAll ∨ ∃ username, path = Destination.greetingEndpoint username ∧
      handler = toUser ∧ captures = [("username", username)] := by
  simp only [Routes.resolve?, entries_defaults, List.findSome?_cons, List.findSome?_nil] at h
  split at h
  · rename_i found hmatch
    obtain ⟨_, -, hfound⟩ := Option.map_eq_some_iff.mp hmatch
    cases h
    cases hfound
    exact .inl rfl
  · split at h
    · rename_i found hmatch
      obtain ⟨captured, hcaptured, hfound⟩ := Option.map_eq_some_iff.mp hmatch
      cases h
      cases hfound
      obtain ⟨rest, hrest, hsegments⟩ := Option.bind_eq_some_iff.mp hcaptured
      obtain ⟨username, hparts, rfl⟩ := of_matchSegments_greeting hsegments
      refine .inr ⟨username, ?_, rfl, rfl⟩
      have hpath : rest = "app/sendToUser/" ++ username := by
        rw [← String.toList_inj, toList_greetingPath, ← hparts, Text.intercalate_split]
      rw [Text.stripStart?_eq_some_iff.mp hrest, hpath]
      exact (Text.stripStart?_eq_some_iff.mp (stripStart?_greetingEndpoint username)).symm
    · cases h

end AppHandler

namespace Broker

variable {setting : Setting} {broker after : Broker} {session : Session} {frame : Frame}
  {recipient key : String} {message : Message} {attempts : List Attempt} {rest : List Event}

/-! ### Messages for a user -/

/-- A live session of the user holds the subscription. -/
def HeldBy (broker : Broker) (username : String) (subscriber : Subscriber) : Prop :=
  ∃ session, broker.registry.get? subscriber.session = some session ∧
    session.authenticated = true ∧ session.username = username

/-- The subscribers under a key that belong to the sessions listed for a user. -/
def recipients (broker : Broker) (recipient key : String) : List Subscriber :=
  (broker.table.subscribers key).filter fun subscriber ↦
    subscriber.session ∈ (broker.registry.sessionsFor recipient).map (·.id)

theorem mem_recipients_iff (hconsistent : Consistent broker) (hproper : Proper broker)
    {subscriber : Subscriber} :
    subscriber ∈ broker.recipients recipient key ↔
      (key, subscriber) ∈ broker.table.entries ∧ broker.HeldBy recipient subscriber := by
  have hbound : broker.registry.Bound := hconsistent.listed
  have howned : subscriber.session ∈ (broker.registry.sessionsFor recipient).map (·.id) ↔
      broker.HeldBy recipient subscriber := by
    constructor
    · intro hmem
      obtain ⟨session, hsession, hid⟩ := List.mem_map.mp hmem
      have hfound := (hbound.mem_sessionsFor_iff hproper.registry).mp hsession
      exact ⟨session, hid ▸ hfound.1, hfound.2⟩
    · intro hheld
      obtain ⟨session, hlive, hsession⟩ := hheld
      obtain hid := Registry.id_of_get? hlive
      rw [← hid] at hlive ⊢
      exact List.mem_map_of_mem
        ((hbound.mem_sessionsFor_iff hproper.registry).mpr ⟨hlive, hsession⟩)
  rw [recipients, List.mem_filter, SubscriptionTable.mem_subscribers_iff hproper.table,
    decide_eq_true_iff, howned]

/-- A message for a user was written once to each of the user's subscriptions under a key, and then
the rest of the journal was written. -/
structure Routed (broker after : Broker) (recipient key : String) (message : Message)
    (attempts : List Attempt) (rest : List Event) : Prop extends
      FannedOut broker after message (broker.recipients recipient key) attempts rest where
  once : (attempts.map Attempt.subscriber).Nodup
  held_iff : ∀ subscriber, subscriber ∈ attempts.map Attempt.subscriber ↔
    (key, subscriber) ∈ broker.table.entries ∧ broker.HeldBy recipient subscriber

theorem FannedOut.routed (hconsistent : Consistent broker) (hproper : Proper broker)
    (h : FannedOut broker after message (broker.recipients recipient key) attempts rest) :
    Routed broker after recipient key message attempts rest := by
  refine ⟨h, ?_, fun subscriber ↦ ?_⟩
  · rw [h.recipients]
    exact hproper.table.nodup_lookup.filter _
  · rw [h.recipients]
    exact mem_recipients_iff hconsistent hproper

theorem exists_routed_deliverToUser (hconsistent : Consistent broker) (hproper : Proper broker)
    (setting : Setting) (recipient queue contentType : String) (body : Bytes) :
    ∃ attempts, Routed broker
      (broker.deliverToUser setting recipient (userQueue queue) (userDestination recipient queue)
        contentType body).2 recipient (userQueue queue)
      ⟨userDestination recipient queue, contentType, body⟩ attempts [] := by
  have houtputs : Outputs setting .closeAll broker broker
      (broker.deliverToUser setting recipient (userQueue queue) (userDestination recipient queue)
        contentType body).2 := outputs_deliverToUser _ _ _ _
  have hlive : ∀ subscriber ∈ broker.recipients recipient (userQueue queue), ∃ session,
      broker.registry.get? subscriber.session = some session := by
    intro subscriber hmem
    obtain ⟨-, session, hlive, -⟩ := (mem_recipients_iff hconsistent hproper).mp hmem
    exact ⟨session, hlive⟩
  obtain ⟨attempts, hfanned, -⟩ :=
    @exists_fannedOut_deliver setting broker
      ⟨userDestination recipient queue, contentType, body⟩ _ hconsistent hlive
      (hconsistent.outputs houtputs)
  exact ⟨attempts, hfanned.routed hconsistent hproper⟩

/-! ### What a SEND sets off -/

/-- What a SEND sets off before it is answered. -/
inductive Relayed (setting : Setting) (broker : Broker) (frame : Frame) : Broker → Prop
  | nothing : Relayed setting broker frame broker
  | published {key : String} (contentType : String) (body : Bytes) :
    ¬Destination.IsPrivate key →
      Relayed setting broker frame (broker.publish setting key contentType body).2
  | routed {destination recipient queue : String} (contentType : String) (body : Bytes) :
    frame.header? Header.destination = some destination →
      Destination.Names destination recipient →
        Relayed setting broker frame
          (broker.deliverToUser setting recipient (userQueue queue)
            (userDestination recipient queue) contentType body).2

theorem not_isPrivate_notice : ¬Destination.IsPrivate Topic.notice := by
  have hparse : Destination.parse Topic.notice = .topic Topic.notice := by decide
  exact Destination.not_isPrivate_of_parse (.inl hparse)

theorem relayed_dispatch {destination : String} (hroutes : setting.routes = AppHandler.defaults)
    (hdestination : frame.header? Header.destination = some destination) (body : Bytes) :
    Relayed setting broker frame (broker.dispatch setting session destination body) := by
  unfold dispatch
  rw [hroutes]
  cases hresolve : AppHandler.defaults.resolve? destination with
  | none => exact .nothing
  | some found =>
    obtain ⟨handler, captures⟩ := found
    rcases AppHandler.of_resolve?_defaults hresolve with rfl | ⟨username, hpath, rfl, rfl⟩
    · exact .published _ _ not_isPrivate_notice
    · exact .routed _ _ hdestination (.inr hpath)

theorem relayed_handleSend (hroutes : setting.routes = AppHandler.defaults)
    (h : broker.handleSend setting session frame = .ok after) :
    Relayed setting broker frame after := by
  unfold handleSend at h
  cases hdestination : frame.header? Header.destination with
  | none =>
    rw [hdestination] at h
    cases h
  | some destination =>
    rw [hdestination] at h
    simp only at h
    split at h
    · rename_i path hparse
      cases h
      have hpath : path = destination := (Destination.fits_of_parse_eq hparse).1
      rw [hpath]
      exact relayed_dispatch hroutes hdestination frame.body
    · rename_i hparse
      cases h
      exact .published _ _ (Destination.not_isPrivate_of_parse (.inl hparse))
    · rename_i hparse
      cases h
      exact .published _ _ (Destination.not_isPrivate_of_parse (.inr hparse))
    · rename_i hparse
      cases h
      obtain ⟨queue, rfl, rfl⟩ := Destination.parse_eq_userScoped hparse
      exact .routed _ _ hdestination (.inl ⟨_, hparse⟩)
    · cases h
      exact .nothing
    · cases h
      exact .nothing

/-! ### What private subscriptions receive -/

/-- An event writes to a private subscription only if it belongs to the user whom a frame names. -/
def Discreet (broker : Broker) (frame : Frame) (event : Event) : Prop :=
  ∀ key id subscription version message outcome, event = .wrote id version message outcome →
    message.command = .message → message.header? Header.subscription = some subscription →
      (key, ⟨id, subscription⟩) ∈ broker.table.entries → Destination.IsPrivate key →
        ∃ destination username, frame.header? Header.destination = some destination ∧
          (∀ other, Destination.Names destination other ↔ other = username) ∧
            broker.HeldBy username ⟨id, subscription⟩

theorem discreet_of_message?_eq_none {event : Event} (h : event.message? = none) :
    Discreet broker frame event := by
  intro key id subscription version message outcome hevent hcommand
  have hmessage : event.message? = some message := by
    rw [hevent, Event.message?, if_pos hcommand]
  rw [h] at hmessage
  cases hmessage

/-- Of a delivery nobody knows more than its subscribers do. -/
theorem FannedOut.discreet {subscribers : List Subscriber}
    (h : FannedOut broker after message subscribers attempts rest)
    (hsubscribers : ∀ subscriber ∈ subscribers, ∀ key, (key, subscriber) ∈ broker.table.entries →
      Destination.IsPrivate key →
        ∃ destination username, frame.header? Header.destination = some destination ∧
          (∀ other, Destination.Names destination other ↔ other = username) ∧
            broker.HeldBy username subscriber) :
    ∀ event ∈ attempts.map (Attempt.event message) ++ rest, Discreet broker frame event := by
  intro event hmem
  rcases List.mem_append.mp hmem with hwrite | hrest
  · obtain ⟨attempt, hattempt, rfl⟩ := List.mem_map.mp hwrite
    have hsubscriber : attempt.subscriber ∈ subscribers := by
      rw [← h.recipients]
      exact List.mem_map_of_mem hattempt
    intro key id subscription version written outcome hevent _ hheader hentry hprivate
    obtain ⟨rfl, -, rfl, -⟩ := Event.wrote.inj hevent
    have hsame : attempt.subscription = subscription :=
      Option.some.inj ((attempt.delivers message).subscription.symm.trans hheader)
    rw [← hsame] at hentry ⊢
    exact hsubscribers _ hsubscriber key hentry hprivate
  · apply discreet_of_message?_eq_none
    by_contra hmessage
    obtain ⟨written, hwritten⟩ := Option.ne_none_iff_exists'.mp hmessage
    have hquiet : written ∈ rest.filterMap Event.message? :=
      List.mem_filterMap.mpr ⟨event, hrest, hwritten⟩
    rw [h.quiet] at hquiet
    cases hquiet

theorem exists_discreet_of_relayed (hconsistent : Consistent broker) (hproper : Proper broker)
    (h : Relayed setting broker frame after) :
    ∃ events, after.journal = broker.journal ++ events ∧
      ∀ event ∈ events, Discreet broker frame event := by
  cases h with
  | nothing => exact ⟨[], (List.append_nil _).symm, by simp⟩
  | @published key contentType body hshared =>
    obtain ⟨attempts, hfanned, -⟩ :=
      exists_fannedOut_publish hconsistent setting ⟨key, contentType, body⟩
    refine ⟨_, hfanned.journal, hfanned.discreet fun subscriber hmem other hentry hprivate ↦ ?_⟩
    -- A subscription has one entry only, and it is the one that was published to.
    have honce : (broker.table.entries.map Prod.snd).Nodup :=
      ((entries_perm_owned hconsistent hproper).map Prod.snd).nodup_iff.mpr hproper.nodup_owned
    have hpublished := SubscriptionTable.mem_entries_of_mem_subscribers hmem
    have hsame : (other, subscriber) = (key, subscriber) :=
      List.inj_on_of_nodup_map honce hentry hpublished rfl
    have hkey : other = key := congrArg Prod.fst hsame
    exact absurd (hkey ▸ hprivate) hshared
  | @routed destination recipient queue contentType body hdestination hnames =>
    obtain ⟨attempts, hrouted⟩ :=
      exists_routed_deliverToUser hconsistent hproper setting recipient queue contentType body
    refine ⟨_, hrouted.journal, hrouted.discreet fun subscriber hmem _ _ _ ↦ ?_⟩
    obtain ⟨-, hheld⟩ := (mem_recipients_iff hconsistent hproper).mp hmem
    refine ⟨destination, recipient, hdestination, fun other ↦ ⟨hnames.unique, ?_⟩, hheld⟩
    intro hother
    rw [hother]
    exact hnames

/-! ### The answer to a SEND -/

/-- The receipt that a frame asks for, if it does. -/
inductive Receipted (session : Session) (frame : Frame) : List Event → Prop
  | none : frame.header? Header.receipt = Option.none → Receipted session frame []
  | written {receipt : String} (outcome : WriteOutcome) :
    frame.header? Header.receipt = some receipt →
      Receipted session frame [.wrote session.id session.version (.receipt receipt) outcome]

theorem exists_receipted (setting : Setting) (broker : Broker) (session : Session)
    (frame : Frame) :
    ∃ events, Receipted session frame events ∧
      (broker.sendReceipt setting session frame).journal = broker.journal ++ events := by
  unfold sendReceipt
  cases hreceipt : frame.header? Header.receipt with
  | none => exact ⟨[], .none hreceipt, (List.append_nil _).symm⟩
  | some receipt => exact ⟨_, .written _ hreceipt, rfl⟩

theorem Receipted.message?_eq_none {events : List Event} (h : Receipted session frame events) :
    ∀ event ∈ events, event.message? = Option.none := by
  intro event hmem
  cases h with
  | none _ => cases hmem
  | written outcome _ =>
    obtain rfl := List.mem_singleton.mp hmem
    rfl

/-- Behind a routed message a client's receipt is all that is written. -/
theorem Routed.receipt (h : Routed broker after recipient key message attempts [])
    (setting : Setting) (session : Session) (frame : Frame) :
    ∃ rest, Routed broker (after.sendReceipt setting session frame) recipient key message attempts
        rest ∧ Receipted session frame rest := by
  obtain ⟨rest, hfanned⟩ := h.toFannedOut.receipt setting session frame
  obtain ⟨events, hreceipted, hjournal⟩ := exists_receipted setting after session frame
  have hrest : rest = events := by
    have hboth := hfanned.journal.symm.trans hjournal
    rw [h.journal, List.append_nil, List.append_assoc] at hboth
    exact List.append_cancel_left (List.append_cancel_left hboth)
  exact ⟨rest, ⟨hfanned, h.once, h.held_iff⟩, hrest ▸ hreceipted⟩

theorem exists_journal_reject (setting : Setting) (broker : Broker) (id : SessionId)
    (text : String) (detail : Option String) :
    ∃ events, (broker.reject setting id text detail).2.journal = broker.journal ++ events ∧
      ∀ event ∈ events, event.message? = none := by
  unfold reject
  cases broker.registry.get? id with
  | none => exact ⟨[], (List.append_nil _).symm, by simp⟩
  | some session =>
    refine ⟨_, rfl, fun event hmem ↦ ?_⟩
    obtain rfl := List.mem_singleton.mp hmem
    cases detail <;> rfl

/-- No SEND writes to a private subscription but to one of the user whom its destination names. -/
theorem exists_discreet_handleFrame (hconsistent : Consistent broker) (hproper : Proper broker)
    (hroutes : setting.routes = AppHandler.defaults) (hcommand : frame.command = .send)
    (id : SessionId) :
    ∃ events, (broker.handleFrame setting id frame).2.journal = broker.journal ++ events ∧
      ∀ event ∈ events, Discreet broker frame event := by
  have hrejected : ∀ failure, ∃ events,
      (broker.protocolError setting id failure).2.journal = broker.journal ++ events ∧
        ∀ event ∈ events, Discreet broker frame event := by
    intro failure
    obtain ⟨events, hjournal, hquiet⟩ := exists_journal_reject setting broker id
      "Protocol error" (some (protocolDetail failure))
    exact ⟨events, hjournal, fun event hmem ↦ discreet_of_message?_eq_none (hquiet event hmem)⟩
  unfold handleFrame
  cases hlive : broker.registry.get? id with
  | none => exact ⟨[], (List.append_nil _).symm, by simp⟩
  | some session =>
    have hid : session.id = id := Registry.id_of_get? hlive
    simp only [hcommand, handleAuthenticated]
    split
    · exact hrejected _
    split
    · cases hsend : broker.handleSend setting session frame with
      | error failure =>
        rw [settle, hid]
        exact hrejected failure
      | ok relayed =>
        obtain ⟨events, hjournal, hdiscreet⟩ :=
          exists_discreet_of_relayed hconsistent hproper (relayed_handleSend hroutes hsend)
        obtain ⟨receipts, hreceipted, hanswered⟩ :=
          exists_receipted setting relayed session frame
        refine ⟨events ++ receipts, ?_, fun event hmem ↦ ?_⟩
        · rw [settle, hanswered, hjournal, List.append_assoc]
        · rcases List.mem_append.mp hmem with hevent | hreceipt
          · exact hdiscreet event hevent
          · exact discreet_of_message?_eq_none (hreceipted.message?_eq_none event hreceipt)
    split
    · rename_i hfamily
      cases hfamily
    · exact hrejected _

/-! ### Isolation -/

/-- Private messages reach the sessions of one user, all of them and nobody else. -/
structure Isolated (broker : Broker) : Prop where
  greeting : ∀ setting recipient body, ∃ attempts,
    Routed broker (broker.run setting (.sendToUser recipient body)) recipient
      (userQueue Topic.greeting)
      ⟨userDestination recipient Topic.greeting, jsonContentType, body⟩ attempts []
  queue : ∀ setting recipient queue body, ∃ attempts,
    Routed broker (broker.run setting (.sendToQueue recipient queue body)) recipient
      (userQueue queue) ⟨userDestination recipient queue, jsonContentType, body⟩ attempts []
  /-- A client sends to the queue of a user. -/
  addressed : ∀ setting (session : Session) (frame : Frame) destination recipient canonical,
    broker.registry.get? session.id = some session → session.authenticated = true →
      frame.command = .send → frame.header? Header.destination = some destination →
        Destination.parse destination = .userScoped recipient canonical →
          ∃ attempts rest,
            Routed broker (broker.run setting (.handleFrame session.id frame)) recipient canonical
              ⟨destination, (frame.header? Header.contentType).getD jsonContentType, frame.body⟩
              attempts rest ∧ Receipted session frame rest
  /-- A client sends to the endpoint that greets a user. -/
  endpoint : ∀ setting (session : Session) (frame : Frame) recipient,
    setting.routes = AppHandler.defaults → broker.registry.get? session.id = some session →
      session.authenticated = true → frame.command = .send →
        frame.header? Header.destination = some (Destination.greetingEndpoint recipient) →
          recipient ≠ "" → '/' ∉ recipient.toList →
            ∃ attempts rest,
              Routed broker (broker.run setting (.handleFrame session.id frame)) recipient
                (userQueue Topic.greeting)
                ⟨userDestination recipient Topic.greeting, jsonContentType,
                  Json.payload frame.body⟩
                attempts rest ∧ Receipted session frame rest
  /-- Whatever a client sends, private subscriptions receive only what names their user. -/
  discreet : ∀ setting id frame, setting.routes = AppHandler.defaults → frame.command = .send →
    ∃ events, (broker.run setting (.handleFrame id frame)).journal = broker.journal ++ events ∧
      ∀ event ∈ events, Discreet broker frame event

theorem handleSend_of_userScoped {destination canonical queue : String}
    (hdestination : frame.header? Header.destination = some destination)
    (hparse : Destination.parse destination = .userScoped recipient canonical)
    (hqueue : destination = userDestination recipient queue)
    (hcanonical : canonical = userQueue queue) :
    broker.handleSend setting session frame =
      .ok (broker.deliverToUser setting recipient (userQueue queue)
        (userDestination recipient queue)
        ((frame.header? Header.contentType).getD jsonContentType) frame.body).2 := by
  rw [handleSend, hdestination]
  simp only [hparse]
  rw [hcanonical, hqueue]

theorem handleSend_greetingEndpoint (hroutes : setting.routes = AppHandler.defaults)
    (hdestination : frame.header? Header.destination =
      some (Destination.greetingEndpoint recipient))
    (hname : recipient ≠ "") (hslash : '/' ∉ recipient.toList) :
    broker.handleSend setting session frame =
      .ok (broker.sendToUser setting recipient (Json.payload frame.body)).2 := by
  have hresolve := AppHandler.resolve?_greetingEndpoint hname hslash
  rw [handleSend, hdestination]
  simp only [Destination.parse_greetingEndpoint]
  rw [dispatch, hroutes, hresolve]
  rfl

/-- Whatever was asked of the broker, private messages are isolated in it. -/
theorem isolated_of_reachable {allowed : Setting → Broker → Operation → Prop}
    (h : Reachable allowed broker) : Isolated broker := by
  have hconsistent := h.consistent
  have hproper := h.proper
  have hdelivered := fun setting recipient queue contentType body ↦
    exists_routed_deliverToUser hconsistent hproper setting recipient queue contentType body
  constructor
  · intro setting recipient body
    exact hdelivered setting recipient Topic.greeting jsonContentType body
  · intro setting recipient queue body
    exact hdelivered setting recipient queue jsonContentType body
  · intro setting session frame destination recipient canonical hlive hauthenticated hcommand
      hdestination hparse
    obtain ⟨queue, hqueue, hcanonical⟩ := Destination.parse_eq_userScoped hparse
    obtain ⟨attempts, hrouted⟩ := hdelivered setting recipient queue
      ((frame.header? Header.contentType).getD jsonContentType) frame.body
    obtain ⟨rest, hanswered, hreceipted⟩ := hrouted.receipt setting session frame
    have hsend : broker.handleSend setting session frame = _ :=
      handleSend_of_userScoped hdestination hparse hqueue hcanonical
    refine ⟨attempts, rest, ?_, hreceipted⟩
    rw [run, handleFrame_of_handleSend hlive hauthenticated hcommand hsend, hqueue, hcanonical]
    exact hanswered
  · intro setting session frame recipient hroutes hlive hauthenticated hcommand hdestination hname
      hslash
    obtain ⟨attempts, hrouted⟩ := hdelivered setting recipient Topic.greeting jsonContentType
      (Json.payload frame.body)
    obtain ⟨rest, hanswered, hreceipted⟩ := hrouted.receipt setting session frame
    have hsend : broker.handleSend setting session frame = _ :=
      handleSend_greetingEndpoint hroutes hdestination hname hslash
    refine ⟨attempts, rest, ?_, hreceipted⟩
    rw [run, handleFrame_of_handleSend hlive hauthenticated hcommand hsend]
    exact hanswered
  · intro setting id frame hroutes hcommand
    exact exists_discreet_handleFrame hconsistent hproper hroutes hcommand id

end Broker

/-! ### Two users who await greetings -/

namespace Broker

namespace Greetings

def setting : Setting := { Forgery.setting with routes := AppHandler.defaults }

def guest : SessionId := ⟨"g"⟩

/-- The claims of a second user. -/
def claims : Claims := setting.auth.claimsFor setting.clock ⟨2, "v"⟩

def token : String := WebToken.sign setting.auth.key claims.toJson

def subscribe (destination : String) : Frame where
  command := .subscribe
  headers := [(Header.id, "0"), (Header.destination, destination)]
  body := []

def record (id : SessionId) (username : String) (version : Version) : Session :=
  { (Forgery.fresh id).authenticate username version with
    subscriptions := [("0", "/user/queue/greeting")] }

/-- The first user has subscribed, and the guest has not connected yet. -/
def awaited : Broker where
  registry :=
    { sessions := [record Forgery.receiver "u" .v10, Forgery.fresh guest]
      users := [("u", [Forgery.receiver])] }
  table := ⟨[("/user/queue/greeting", [⟨Forgery.receiver, "0"⟩])]⟩
  sinks := [(Forgery.receiver, { begun := 1 }), (guest, {})]
  journal := [.wrote Forgery.receiver .v10 (.connected .v10 "r") .written]

/-- The guest has connected as a second user. -/
def admitted : Broker where
  registry :=
    { sessions := [record Forgery.receiver "u" .v10, (Forgery.fresh guest).authenticate "v" .v12]
      users := [("u", [Forgery.receiver]), ("v", [guest])] }
  table := awaited.table
  sinks := [(Forgery.receiver, { begun := 1 }), (guest, { begun := 1 })]
  journal :=
    [.wrote Forgery.receiver .v10 (.connected .v10 "r") .written,
      .wrote guest .v12 (.connected .v12 "g") .written]

/-- Both have subscribed, the guest under its own name. -/
def broker : Broker :=
  { admitted with
    registry :=
      { sessions := [record Forgery.receiver "u" .v10, record guest "v" .v12]
        users := [("u", [Forgery.receiver]), ("v", [guest])] }
    table := ⟨[("/user/queue/greeting", [⟨Forgery.receiver, "0"⟩, ⟨guest, "0"⟩])]⟩ }

theorem parse_token : setting.auth.parse setting.clock token = .ok claims := by
  have hread : WebToken.readClaims setting.auth.issuer
      (WebToken.writePart (Json.write claims.toJson)) = .ok claims := by decide +kernel
  exact Authenticator.parse_sign hread (by decide) (by decide)

theorem run_awaited :
    (Forgery.connected.run setting
        (.handleFrame Forgery.receiver (subscribe "/user/queue/greeting"))).run setting
      (.openSession guest {}) = awaited :=
  rfl

theorem run_admitted :
    awaited.run setting (.handleFrame guest (Forgery.connect token "1.2")) = admitted := by
  have hversion : Version.negotiate ((Forgery.connect token "1.2").header? Header.acceptVersion) =
      some .v12 := by with_unfolding_all rfl
  have htoken : connectToken? (Forgery.connect token "1.2") = some token :=
    Forgery.connectToken?_connect (WebToken.isEmpty_sign _ _) "1.2"
  have henrol : awaited.enrol (Forgery.fresh guest) claims.username .v12 =
      .ok { admitted with sinks := awaited.sinks, journal := awaited.journal } := rfl
  have hconnect := handleConnect_of_parse hversion htoken parse_token henrol
  have hlive : awaited.registry.get? guest = some (Forgery.fresh guest) := rfl
  have hhandle : awaited.handleFrame setting guest (Forgery.connect token "1.2") =
      awaited.handleConnect setting (Forgery.fresh guest) (Forgery.connect token "1.2") := by
    have hserver : (Forgery.connect token "1.2").command.isServerCommand = false := rfl
    have hfamily : (Forgery.connect token "1.2").command.isConnectFamily = true := rfl
    have hnew : (Forgery.fresh guest).authenticated = false := rfl
    rw [handleFrame, hlive]
    simp only [hserver, hfamily, hnew, Bool.false_eq_true, if_false, if_true]
  rw [run, hhandle, hconnect]
  rfl

theorem run_broker :
    admitted.run setting (.handleFrame guest (subscribe "/user/v/queue/greeting")) = broker := by
  have hkey : subscriptionKey? "v" "/user/v/queue/greeting" = some "/user/queue/greeting" := by
    decide
  have hsubscribe : admitted.handleSubscribe ((Forgery.fresh guest).authenticate "v" .v12)
      (subscribe "/user/v/queue/greeting") = .ok broker := by
    have hid : (subscribe "/user/v/queue/greeting").header? Header.id = some "0" := rfl
    have hdestination : (subscribe "/user/v/queue/greeting").header? Header.destination =
        some "/user/v/queue/greeting" := rfl
    rw [handleSubscribe, hid, hdestination]
    simp only [Session.authenticate, hkey]
    rfl
  have hlive : admitted.registry.get? guest = some ((Forgery.fresh guest).authenticate "v" .v12) :=
    rfl
  have hhandle : admitted.handleFrame setting guest (subscribe "/user/v/queue/greeting") =
      admitted.settle setting ((Forgery.fresh guest).authenticate "v" .v12)
        (subscribe "/user/v/queue/greeting")
        (admitted.handleSubscribe ((Forgery.fresh guest).authenticate "v" .v12)
          (subscribe "/user/v/queue/greeting")) := by
    rw [handleFrame, hlive]
    rfl
  rw [run, hhandle, hsubscribe]
  rfl

theorem reachable_connected : Reachable (fun _ _ _ ↦ True) Forgery.connected := by
  have hopened : Reachable (fun _ _ _ ↦ True) (run Forgery.setting {}
      (.openSession Forgery.receiver {})) := .step .start rfl trivial
  rw [← Forgery.run_connected (WebToken.isEmpty_sign _ _) Forgery.parse_token]
  exact .step hopened trivial trivial

theorem reachable_broker : Reachable (fun _ _ _ ↦ True) broker := by
  have hawaited : Reachable (fun _ _ _ ↦ True) awaited := by
    rw [← run_awaited]
    exact .step (.step reachable_connected trivial trivial) rfl trivial
  have hadmitted : Reachable (fun _ _ _ ↦ True) admitted := by
    rw [← run_admitted]
    exact .step hawaited trivial trivial
  rw [← run_broker]
  exact .step hadmitted trivial trivial

end Greetings

/-- Two users share the key of the greetings. -/
theorem isolated_of_reachable_greetings :
    Reachable (fun _ _ _ ↦ True) Greetings.broker ∧ Isolated Greetings.broker ∧
      Greetings.broker.table.entries =
        [("/user/queue/greeting", ⟨Forgery.receiver, "0"⟩),
          ("/user/queue/greeting", ⟨Greetings.guest, "0"⟩)] ∧
      Greetings.broker.recipients "v" (userQueue Topic.greeting) = [⟨Greetings.guest, "0"⟩] :=
  ⟨Greetings.reachable_broker, isolated_of_reachable Greetings.reachable_broker, rfl, by decide⟩

end Broker

end StompBroker
