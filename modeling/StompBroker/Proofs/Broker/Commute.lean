import Mathlib.Data.Finset.Dedup
import StompBroker.Proofs.Broker.Access
import StompBroker.Proofs.Broker.Subscriptions
import StompBroker.Proofs.Broker.Written

/-!
# Frames of different sessions commute

A frame that sends nothing to others concerns its own session alone. All that is done for it is a
`Footprint`: what becomes of the session's record, under which user it is bound, the entry that is
added to the table or removed from it, and what is written to its connection. The footprint follows
from the record and the connection (`exists_footprint_handleFrame`), whatever else the broker knows,
and it says exactly what becomes of the broker (`Footprint.apply`).

The record and the connection of a session are out of reach for the footprints of others
(`get?_apply_of_ne`, `sink_apply_of_ne`). So two frames of different sessions leave the same
footprints in both orders, and these lead to the same books (`interchanged_apply`): the rows of
users and destinations that both may change are the same sets, although the order in which they were
filled may differ.
-/

set_option autoImplicit false

namespace StompBroker

/-- The session that an event is about. -/
def Event.session : Event → SessionId
  | wrote id _ _ _ => id
  | closed id _ => id
  | answered id _ => id

namespace Rows

variable {α : Type} [DecidableEq α]

/-- Proper rows of one relation are one map into sets. -/
theorem Proper.toFinset_lookup_eq {rows others : List (String × List α)} (h : Proper rows)
    (hothers : Proper others)
    (hpairs : ∀ name value, (name, value) ∈ pairs rows ↔ (name, value) ∈ pairs others)
    (name : String) :
    (rows.lookup name).map List.toFinset = (others.lookup name).map List.toFinset := by
  have hvalues (value : α) :
      value ∈ (rows.lookup name).getD [] ↔ value ∈ (others.lookup name).getD [] := by
    rw [h.mem_lookup_iff, hothers.mem_lookup_iff, hpairs]
  have hfilled {rows : List (String × List α)} (h : Proper rows) {values : List α}
      (hlookup : rows.lookup name = some values) : values ≠ [] :=
    h.filled _ (h.lookup_eq_some_iff.mp hlookup)
  cases hrow : rows.lookup name with
  | none =>
    cases hother : others.lookup name with
    | none => rfl
    | some values =>
      refine absurd (List.eq_nil_iff_forall_not_mem.mpr fun value hmem ↦ ?_)
        (hfilled hothers hother)
      have hnone := (hvalues value).mpr (by rw [hother]; exact hmem)
      rw [hrow] at hnone
      cases hnone
  | some values =>
    cases hother : others.lookup name with
    | none =>
      refine absurd (List.eq_nil_iff_forall_not_mem.mpr fun value hmem ↦ ?_) (hfilled h hrow)
      have hnone := (hvalues value).mp (by rw [hrow]; exact hmem)
      rw [hother] at hnone
      cases hnone
    | some others =>
      rw [hrow, hother] at hvalues
      refine congrArg some (Finset.ext fun value ↦ ?_)
      rw [List.mem_toFinset, List.mem_toFinset]
      exact hvalues value

end Rows

namespace SubscriptionTable

variable {table : SubscriptionTable} {key subscription : String} {id other : SessionId}

/-- The table with an entry of a session, if there is one to add. -/
def addFor (id : SessionId) (entry : Option (String × String)) (table : SubscriptionTable) :
    SubscriptionTable :=
  match entry with
  | none => table
  | some (key, subscription) => table.add key ⟨id, subscription⟩

/-- The table without an entry of a session, if there is one to remove. -/
def removeFor (id : SessionId) (entry : Option (String × String)) (table : SubscriptionTable) :
    SubscriptionTable :=
  match entry with
  | none => table
  | some (key, subscription) => (table.remove key ⟨id, subscription⟩).2

theorem entry_eq_iff {destination name : String} :
    (key = destination ∧ (⟨other, subscription⟩ : Subscriber) = ⟨id, name⟩) ↔
      some (destination, name) = some (key, subscription) ∧ other = id := by
  constructor
  · rintro ⟨rfl, hsubscriber⟩
    cases hsubscriber
    exact ⟨rfl, rfl⟩
  · rintro ⟨hentry, rfl⟩
    cases hentry
    exact ⟨rfl, rfl⟩

theorem mem_entries_addFor {entry : Option (String × String)} :
    (key, ⟨other, subscription⟩) ∈ (table.addFor id entry).entries ↔
      (entry = some (key, subscription) ∧ other = id) ∨
        (key, ⟨other, subscription⟩) ∈ table.entries := by
  cases entry with
  | none => simp [addFor]
  | some added =>
    rw [addFor, mem_entries_add]
    exact or_congr_left entry_eq_iff

theorem mem_entries_removeFor {entry : Option (String × String)} :
    (key, ⟨other, subscription⟩) ∈ (table.removeFor id entry).entries ↔
      (key, ⟨other, subscription⟩) ∈ table.entries ∧
        ¬(entry = some (key, subscription) ∧ other = id) := by
  cases entry with
  | none => simp [removeFor]
  | some removed =>
    rw [removeFor, mem_entries_remove]
    exact and_congr_right fun _ ↦ not_congr entry_eq_iff

theorem proper_addFor (h : Rows.Proper table.destinations) (id : SessionId)
    (entry : Option (String × String)) : Rows.Proper (table.addFor id entry).destinations := by
  cases entry with
  | none => exact h
  | some added => exact proper_add h _ _

theorem proper_removeFor (h : Rows.Proper table.destinations) (id : SessionId)
    (entry : Option (String × String)) : Rows.Proper (table.removeFor id entry).destinations := by
  cases entry with
  | none => exact h
  | some removed => exact proper_filter h _

end SubscriptionTable

namespace Broker

/-! ### Footprints -/

/-- All that is done for a frame that concerns its own session alone. -/
structure Footprint where
  change : Session → Session := fun session ↦ session
  /-- The user that the session is bound to. -/
  bound : Option String := none
  /-- The destination and the subscription id that are added to the table. -/
  added : Option (String × String) := none
  removed : Option (String × String) := none
  /-- The connection after what was written to it. -/
  sink : Option Sink := none
  events : List Event := []

/-- The broker once all of it is done. -/
def Footprint.apply (footprint : Footprint) (id : SessionId) (broker : Broker) : Broker :=
  { broker with
    registry :=
      { sessions := (broker.registry.update id footprint.change).sessions
        users :=
          match footprint.bound with
          | none => broker.registry.users
          | some username => Registry.bindTo username id broker.registry.users }
    table := (broker.table.addFor id footprint.added).removeFor id footprint.removed
    sinks :=
      match footprint.sink with
      | none => broker.sinks
      | some sink => putSink id sink broker.sinks
    journal := broker.journal ++ footprint.events }

/-- Nothing of it concerns any other session. -/
structure Footprint.Own (footprint : Footprint) (id : SessionId) : Prop where
  change : ∀ session : Session, session.id = id → (footprint.change session).id = id
  events : ∀ event ∈ footprint.events, event.session = id

variable {broker : Broker} {footprint other : Footprint} {id first second : SessionId}

theorem own_empty (id : SessionId) : ({} : Footprint).Own id :=
  ⟨fun _ hid ↦ hid, by simp⟩

theorem apply_empty (id : SessionId) (broker : Broker) :
    ({} : Footprint).apply id broker = broker := by
  simp [Footprint.apply, Registry.update, SubscriptionTable.addFor, SubscriptionTable.removeFor]

theorem putSink_putSink (id : SessionId) (earlier later : Sink) (sinks : List (SessionId × Sink)) :
    putSink id later (putSink id earlier sinks) = putSink id later sinks := by
  induction sinks with
  | nil => simp [putSink]
  | cons entry sinks ih =>
    rw [putSink, putSink]
    by_cases hentry : entry.1 = id
    · rw [if_pos hentry, if_pos hentry, putSink, if_pos rfl]
    · rw [if_neg hentry, if_neg hentry, putSink, if_neg hentry, ih]

/-! ### What a footprint leaves -/

theorem sink_apply {other : SessionId} : (footprint.apply id broker).sink other =
    if id = other then footprint.sink.getD (broker.sink id) else broker.sink other := by
  unfold Footprint.apply Broker.sink
  cases footprint.sink with
  | none =>
    by_cases hid : id = other
    · rw [if_pos hid, hid]
      rfl
    · rw [if_neg hid]
  | some sink =>
    dsimp only
    rw [lookup_putSink]
    by_cases hid : id = other
    · rw [if_pos hid, if_pos hid]
      rfl
    · rw [if_neg hid, if_neg hid]

/-- The connections of others are out of reach. -/
theorem sink_apply_of_ne (hne : first ≠ second) :
    (footprint.apply first broker).sink second = broker.sink second :=
  sink_apply.trans (if_neg hne)

theorem get?_apply (h : footprint.Own id) {other : SessionId} :
    (footprint.apply id broker).registry.get? other =
      if id = other then (broker.registry.get? id).map footprint.change
        else broker.registry.get? other :=
  Registry.get?_update h.change

/-- The records of others are out of reach. -/
theorem get?_apply_of_ne (h : footprint.Own first) (hne : first ≠ second) :
    (footprint.apply first broker).registry.get? second = broker.registry.get? second :=
  (get?_apply h).trans (if_neg hne)

theorem mem_pairs_users_apply {username : String} {other : SessionId} :
    (username, other) ∈ Rows.pairs (footprint.apply id broker).registry.users ↔
      (footprint.bound = some username ∧ other = id) ∨
        (username, other) ∈ Rows.pairs broker.registry.users := by
  unfold Footprint.apply
  cases footprint.bound with
  | none => simp
  | some bound =>
    dsimp only
    rw [Registry.bindTo_eq_insert, Rows.mem_pairs_insert, Option.some.injEq, eq_comm]

theorem mem_entries_apply {key subscription : String} {other : SessionId} :
    (key, ⟨other, subscription⟩) ∈ (footprint.apply id broker).table.entries ↔
      ((footprint.added = some (key, subscription) ∧ other = id) ∨
          (key, ⟨other, subscription⟩) ∈ broker.table.entries) ∧
        ¬(footprint.removed = some (key, subscription) ∧ other = id) := by
  rw [← SubscriptionTable.mem_entries_addFor, ← SubscriptionTable.mem_entries_removeFor]
  rfl

theorem proper_users_apply (h : Rows.Proper broker.registry.users) :
    Rows.Proper (footprint.apply id broker).registry.users := by
  unfold Footprint.apply
  cases footprint.bound with
  | none => exact h
  | some username =>
    dsimp only
    rw [Registry.bindTo_eq_insert]
    exact h.insert username id

theorem proper_table_apply (h : Rows.Proper broker.table.destinations) :
    Rows.Proper (footprint.apply id broker).table.destinations :=
  SubscriptionTable.proper_removeFor (SubscriptionTable.proper_addFor h id _) id _

/-! ### Writing -/

section Write

variable {setting : Setting} {session : Session} {sink : Sink} {frame : Frame}

/-- The outcome of a write at the end of a footprint, and the footprint with it. -/
def Footprint.write (setting : Setting) (session : Session) (sink : Sink) (frame : Frame)
    (footprint : Footprint) : WriteOutcome × Footprint :=
  let written := (footprint.sink.getD sink).write 0 setting.writeTimeout
  (written.1,
    { footprint with
      sink := some written.2.2
      events := footprint.events ++ [.wrote session.id session.version frame written.1] })

/-- The footprint with a receipt at its end, if the frame asks for one. -/
def Footprint.receipt (setting : Setting) (session : Session) (sink : Sink) (frame : Frame)
    (footprint : Footprint) : Footprint :=
  match frame.header? Header.receipt with
  | none => footprint
  | some receipt => (footprint.write setting session sink (.receipt receipt)).2

theorem Footprint.Own.write (session : Session) (h : footprint.Own session.id) :
    (footprint.write setting session sink frame).2.Own session.id := by
  refine ⟨h.change, fun event hmem ↦ ?_⟩
  rcases List.mem_append.mp hmem with hbefore | hnew
  · exact h.events event hbefore
  · rw [List.mem_singleton.mp hnew]
    rfl

theorem Footprint.Own.receipt (session : Session) (h : footprint.Own session.id) :
    (footprint.receipt setting session sink frame).Own session.id := by
  unfold Footprint.receipt
  cases frame.header? Header.receipt with
  | none => exact h
  | some receipt => exact h.write session

theorem send_apply (setting : Setting) (session : Session) (frame : Frame) (footprint : Footprint)
    (hsink : broker.sink session.id = sink) :
    (footprint.apply session.id broker).send setting session frame =
      ((footprint.write setting session sink frame).1,
        (footprint.write setting session sink frame).2.apply session.id broker) := by
  have hown : (footprint.apply session.id broker).sink session.id = footprint.sink.getD sink := by
    rw [sink_apply, if_pos rfl, hsink]
  have hsinks (later : Sink) : putSink session.id later (footprint.apply session.id broker).sinks =
      putSink session.id later broker.sinks := by
    unfold Footprint.apply
    cases footprint.sink with
    | none => rfl
    | some earlier => exact putSink_putSink session.id earlier later broker.sinks
  simp only [send, Broker.write, hown, setSink, record, hsinks]
  simp only [Footprint.apply, Footprint.write, List.append_assoc]

theorem sendReceipt_apply (session : Session) (footprint : Footprint)
    (hsink : broker.sink session.id = sink) :
    (footprint.apply session.id broker).sendReceipt setting session frame =
      (footprint.receipt setting session sink frame).apply session.id broker := by
  unfold sendReceipt Footprint.receipt
  cases frame.header? Header.receipt with
  | none => rfl
  | some receipt =>
    exact congrArg Prod.snd (send_apply setting session (.receipt receipt) footprint hsink)

end Write

/-! ### The footprint of a frame -/

/-- What is done follows from the record and the connection of the session, and is a footprint. -/
def Leaves (session : Session) (sink : Sink) (process : Broker → Flow × Broker) : Prop :=
  ∃ (flow : Flow) (footprint : Footprint), footprint.Own session.id ∧
    ∀ broker : Broker, broker.registry.get? session.id = some session →
      broker.sink session.id = sink →
      process broker = (flow, footprint.apply session.id broker)

section Leaves

variable {setting : Setting} {session : Session} {sink : Sink} {frame : Frame}

theorem leaves_reject (setting : Setting) (session : Session) (sink : Sink) (message : String)
    (detail : Option String) :
    Leaves session sink fun broker ↦ broker.reject setting session.id message detail := by
  let error : Frame := .error message detail
  let footprint := (({} : Footprint).write setting session sink error).2
  refine ⟨.close, footprint, (own_empty session.id).write session, fun broker hlive hsink ↦ ?_⟩
  have hsend : (broker.send setting session error).2 = footprint.apply session.id broker := by
    have hwritten := congrArg Prod.snd (send_apply setting session error {} hsink)
    rwa [apply_empty] at hwritten
  dsimp only
  rw [← hsend]
  unfold reject
  rw [hlive]

/-- A frame that was processed is confirmed. -/
theorem leaves_settle_ok {process : Broker → Except Failure Broker} (h : footprint.Own session.id)
    (hprocess : ∀ broker : Broker, broker.registry.get? session.id = some session →
      process broker = .ok (footprint.apply session.id broker)) :
    Leaves session sink fun broker ↦ broker.settle setting session frame (process broker) := by
  refine ⟨.continue, footprint.receipt setting session sink frame, h.receipt session,
    fun broker hlive hsink ↦ ?_⟩
  dsimp only
  rw [hprocess broker hlive, settle, sendReceipt_apply session footprint hsink]

theorem leaves_settle_error {process : Broker → Except Failure Broker} (failure : Failure)
    (hprocess : ∀ broker : Broker, broker.registry.get? session.id = some session →
      process broker = .error failure) :
    Leaves session sink fun broker ↦ broker.settle setting session frame (process broker) := by
  obtain ⟨flow, footprint, hown, hreject⟩ :=
    leaves_reject setting session sink "Protocol error" (some (protocolDetail failure))
  refine ⟨flow, footprint, hown, fun broker hlive hsink ↦ ?_⟩
  dsimp only
  rw [hprocess broker hlive]
  exact hreject broker hlive hsink

theorem leaves_handleSubscribe : Leaves session sink fun broker ↦
    broker.settle setting session frame (broker.handleSubscribe session frame) := by
  cases hid : frame.header? Header.id with
  | none =>
    exact leaves_settle_error _ fun broker _ ↦ by rw [handleSubscribe, hid]
  | some subscription =>
    cases hdestination : frame.header? Header.destination with
    | none =>
      exact leaves_settle_error _ fun broker _ ↦ by rw [handleSubscribe, hid, hdestination]
    | some destination =>
      cases hkey : subscriptionKey? session.username destination with
      | none =>
        refine leaves_settle_ok (own_empty session.id) fun broker _ ↦ ?_
        rw [apply_empty, handleSubscribe, hid, hdestination]
        simp only [hkey]
      | some key =>
        cases hsubscribe : session.subscribe? subscription key with
        | none =>
          let failure : Failure :=
            .protocol ("duplicate subscription id '" ++ subscription ++ "'")
          refine leaves_settle_error failure fun broker _ ↦ ?_
          rw [handleSubscribe, hid, hdestination]
          simp only [hkey, hsubscribe]
          rfl
        | some subscribed =>
          obtain ⟨-, hsubscribed⟩ := Session.subscribe?_eq_some_iff.mp hsubscribe
          let footprint : Footprint :=
            { change := fun _ ↦ subscribed, added := some (key, subscription) }
          have hown : footprint.Own session.id := by
            refine ⟨fun _ _ ↦ ?_, by simp [footprint]⟩
            exact (congrArg Session.id hsubscribed).symm
          refine leaves_settle_ok hown fun broker _ ↦ ?_
          rw [handleSubscribe, hid, hdestination]
          simp only [hkey, hsubscribe, footprint, Footprint.apply, List.append_nil]
          rfl

theorem leaves_handleUnsubscribe : Leaves session sink fun broker ↦
    broker.settle setting session frame (broker.handleUnsubscribe session frame) := by
  cases hid : frame.header? Header.id with
  | none =>
    exact leaves_settle_error _ fun broker _ ↦ by rw [handleUnsubscribe, hid]
  | some subscription =>
    cases hkey : session.subscriptions.lookup subscription with
    | none =>
      refine leaves_settle_ok (own_empty session.id) fun broker _ ↦ ?_
      rw [apply_empty, handleUnsubscribe, hid]
      simp only [hkey]
    | some key =>
      let footprint : Footprint :=
        { change := (·.unsubscribe subscription), removed := some (key, subscription) }
      have hown : footprint.Own session.id := ⟨fun _ hsame ↦ hsame, by simp [footprint]⟩
      refine leaves_settle_ok hown fun broker _ ↦ ?_
      rw [handleUnsubscribe, hid]
      simp only [hkey, footprint, Footprint.apply, List.append_nil]
      rfl

/-- A live session can be enrolled. -/
theorem enrol_eq_apply {username : String} {version : Version}
    (hlive : broker.registry.get? session.id = some session) :
    broker.enrol session username version =
      .ok (({ change := (·.authenticate username version), bound := some username } :
        Footprint).apply session.id broker) := by
  have hcontains : (broker.registry.update session.id
      (·.authenticate username version)).contains session.id = true := by
    have hkept : ∀ kept : Session, kept.id = session.id →
        (kept.authenticate username version).id = session.id := fun _ hid ↦ hid
    rw [Registry.contains, Registry.get?_update_self hkept hlive, Option.isSome_some]
  simp only [enrol, Registry.bind, hcontains, if_true, Except.map, Footprint.apply, List.append_nil]
  rfl

/-- An accepted handshake enrols the session and welcomes its client. -/
theorem leaves_handleConnect_of_parse {version : Version} {token : String} {claims : Claims}
    (sink : Sink) (hversion : Version.negotiate (frame.header? Header.acceptVersion) = some version)
    (htoken : connectToken? frame = some token)
    (hparse : setting.auth.parse setting.clock token = .ok claims) :
    Leaves session sink fun broker ↦ broker.handleConnect setting session frame := by
  let enrolled := session.authenticate claims.username version
  let footprint : Footprint :=
    { change := (·.authenticate claims.username version), bound := some claims.username }
  let connected : Frame := .connected version session.id.text
  let welcomed := footprint.write setting enrolled sink connected
  have hown : footprint.Own session.id := ⟨fun _ hsame ↦ hsame, by simp [footprint]⟩
  have hconnect (broker : Broker) (hlive : broker.registry.get? session.id = some session) :=
    handleConnect_of_parse hversion htoken hparse (enrol_eq_apply hlive)
  have hsend (broker : Broker) (hsink : broker.sink session.id = sink) :
      (footprint.apply session.id broker).send setting enrolled connected =
        (welcomed.1, welcomed.2.apply session.id broker) :=
    send_apply setting enrolled connected footprint hsink
  have hwelcomed : welcomed.2.Own session.id := hown.write enrolled
  cases houtcome : welcomed.1 with
  | written =>
    refine ⟨.continue, welcomed.2.receipt setting enrolled sink frame,
      hwelcomed.receipt enrolled, fun broker hlive hsink ↦ ?_⟩
    have hreceipt : (welcomed.2.apply session.id broker).sendReceipt setting enrolled frame =
        (welcomed.2.receipt setting enrolled sink frame).apply session.id broker :=
      sendReceipt_apply enrolled welcomed.2 hsink
    dsimp only
    rw [hconnect broker hlive, hsend broker hsink, houtcome, ← hreceipt]
  | refused reason =>
    refine ⟨.close, welcomed.2, hwelcomed, fun broker hlive hsink ↦ ?_⟩
    dsimp only
    rw [hconnect broker hlive, hsend broker hsink, houtcome]
  | timedOut =>
    refine ⟨.close, welcomed.2, hwelcomed, fun broker hlive hsink ↦ ?_⟩
    dsimp only
    rw [hconnect broker hlive, hsend broker hsink, houtcome]

theorem leaves_handleConnect (setting : Setting) (session : Session) (sink : Sink) (frame : Frame) :
    Leaves session sink fun broker ↦ broker.handleConnect setting session frame := by
  cases hversion : Version.negotiate (frame.header? Header.acceptVersion) with
  | none =>
    obtain ⟨flow, footprint, hown, hreject⟩ :=
      leaves_reject setting session sink unsupportedVersion none
    refine ⟨flow, footprint, hown, fun broker hlive hsink ↦ ?_⟩
    rw [← hreject broker hlive hsink]
    simp only [handleConnect, hversion]
  | some version =>
    have hfailed (hparse : ∀ claims,
        (connectToken? frame).map (setting.auth.parse setting.clock) ≠ some (.ok claims)) :
        Leaves session sink fun broker ↦ broker.handleConnect setting session frame := by
      obtain ⟨flow, footprint, hown, hreject⟩ :=
        leaves_reject setting session sink authenticationFailed none
      refine ⟨flow, footprint, hown, fun broker hlive hsink ↦ ?_⟩
      rw [← hreject broker hlive hsink]
      simp only [handleConnect, hversion]
      split
      · rfl
      · rfl
      · rename_i claims hclaims
        exact absurd hclaims (hparse claims)
    cases htoken : connectToken? frame with
    | none => exact hfailed fun claims hclaims ↦ by rw [htoken] at hclaims; cases hclaims
    | some token =>
      cases hparse : setting.auth.parse setting.clock token with
      | error cause =>
        refine hfailed fun claims hclaims ↦ ?_
        rw [htoken, Option.map_some, hparse] at hclaims
        cases hclaims
      | ok claims => exact leaves_handleConnect_of_parse sink hversion htoken hparse

theorem leaves_handleAuthenticated (setting : Setting) (hcommand : frame.command ≠ .send) :
    Leaves session sink fun broker ↦ broker.handleAuthenticated setting session frame := by
  have hignored : Leaves session sink fun broker ↦
      broker.settle setting session frame (.ok broker) :=
    leaves_settle_ok (own_empty session.id) fun broker _ ↦ by rw [apply_empty]
  have hrefused (failure : Failure) :
      Leaves session sink fun broker ↦ broker.settle setting session frame (.error failure) :=
    leaves_settle_error failure fun _ _ ↦ rfl
  unfold handleAuthenticated
  cases hframe : frame.command with
  | subscribe => exact leaves_handleSubscribe
  | unsubscribe => exact leaves_handleUnsubscribe
  | send => exact absurd hframe hcommand
  | disconnect =>
    refine ⟨.close, ({} : Footprint).receipt setting session sink frame,
      (own_empty session.id).receipt session, fun broker _ hsink ↦ ?_⟩
    rw [← sendReceipt_apply session {} hsink, apply_empty]
  | ack | nack | begin | commit | abort => exact hignored
  | connect | stomp | connected | message | receipt | error => exact hrefused _

/-- All that is done for a frame other than SEND is a footprint that follows from the record and the
connection of its session. -/
theorem exists_footprint_handleFrame (setting : Setting) (session : Session) (sink : Sink)
    (hcommand : frame.command ≠ .send) :
    Leaves session sink fun broker ↦ broker.handleFrame setting session.id frame := by
  have hprocess (process : Broker → Flow × Broker) (hleaves : Leaves session sink process)
      (hhandle : ∀ broker : Broker, broker.registry.get? session.id = some session →
        broker.handleFrame setting session.id frame = process broker) :
      Leaves session sink fun broker ↦ broker.handleFrame setting session.id frame := by
    obtain ⟨flow, footprint, hown, happly⟩ := hleaves
    refine ⟨flow, footprint, hown, fun broker hlive hsink ↦ ?_⟩
    dsimp only
    rw [hhandle broker hlive, happly broker hlive hsink]
  have hrefused (failure : Failure) :
      Leaves session sink fun broker ↦ broker.protocolError setting session.id failure :=
    leaves_reject setting session sink _ _
  cases hserver : frame.command.isServerCommand with
  | true =>
    refine hprocess _ (hrefused (serverFrame frame.command)) fun broker hlive ↦ ?_
    simp only [handleFrame, hlive, hserver, if_true]
  | false =>
    cases hauthenticated : session.authenticated with
    | true =>
      refine hprocess _ (leaves_handleAuthenticated setting hcommand) fun broker hlive ↦ ?_
      simp only [handleFrame, hlive, hserver, hauthenticated, if_true, Bool.false_eq_true, if_false]
    | false =>
      cases hfamily : frame.command.isConnectFamily with
      | true =>
        refine hprocess _ (leaves_handleConnect setting session sink frame) fun broker hlive ↦ ?_
        simp only [handleFrame, hlive, hserver, hauthenticated, hfamily, if_true,
          Bool.false_eq_true, if_false]
      | false =>
        refine hprocess _ (hrefused (.protocol (frame.command.text ++ " before CONNECT")))
          fun broker hlive ↦ ?_
        simp only [handleFrame, hlive, hserver, hauthenticated, hfamily, Bool.false_eq_true,
          if_false]

end Leaves

/-! ### Two footprints -/

/-- Two brokers that nobody can tell apart: the same sessions, the same sets under every user and
every destination, the same connections, and for every session the same events in the same
order. -/
structure Interchanged (left right : Broker) : Prop where
  sessions : left.registry.sessions = right.registry.sessions
  users : ∀ username, (left.registry.users.lookup username).map List.toFinset =
    (right.registry.users.lookup username).map List.toFinset
  destinations : ∀ destination, (left.table.destinations.lookup destination).map List.toFinset =
    (right.table.destinations.lookup destination).map List.toFinset
  sinks : ∀ id, left.sink id = right.sink id
  departed : left.departed = right.departed
  closing : left.closing = right.closing
  nextMessageId : left.nextMessageId = right.nextMessageId
  journal : ∀ id, (left.journal.filter fun event ↦ event.session = id) =
    right.journal.filter fun event ↦ event.session = id

theorem sessions_apply_comm (hown : footprint.Own first) (hother : other.Own second)
    (hne : first ≠ second) :
    (other.apply second (footprint.apply first broker)).registry.sessions =
      (footprint.apply first (other.apply second broker)).registry.sessions := by
  simp only [Footprint.apply, Registry.update, List.map_map]
  refine List.map_congr_left fun session _ ↦ ?_
  simp only [Function.comp_apply]
  by_cases hfirst : session.id = first
  · have hsecond : session.id ≠ second := fun heq ↦ hne (hfirst.symm.trans heq)
    have hchanged : (footprint.change session).id ≠ second := by
      rw [hown.change session hfirst]
      exact hne
    rw [if_pos hfirst, if_neg hsecond, if_pos hfirst, if_neg hchanged]
  · by_cases hsecond : session.id = second
    · have hchanged : (other.change session).id ≠ first := by
        rw [hother.change session hsecond]
        exact hne.symm
      rw [if_neg hfirst, if_pos hsecond, if_neg hchanged]
    · rw [if_neg hfirst, if_neg hsecond, if_neg hfirst]

theorem journal_apply_of_ne (hown : footprint.Own first) (hne : first ≠ second) :
    ((footprint.apply first broker).journal.filter fun event ↦ event.session = second) =
      broker.journal.filter fun event ↦ event.session = second := by
  have hnone : (footprint.events.filter fun event ↦ event.session = second) = [] := by
    refine List.filter_eq_nil_iff.mpr fun event hmem ↦ ?_
    rw [hown.events event hmem]
    simpa using hne
  rw [Footprint.apply, List.filter_append, hnone, List.append_nil]

theorem journal_apply :
    ((footprint.apply id broker).journal.filter fun event ↦ event.session = id) =
      (broker.journal.filter fun event ↦ event.session = id) ++
        footprint.events.filter fun event ↦ event.session = id :=
  List.filter_append ..

theorem journal_apply_comm (hown : footprint.Own first) (hother : other.Own second)
    (hne : first ≠ second) (id : SessionId) :
    ((other.apply second (footprint.apply first broker)).journal.filter fun event ↦
        event.session = id) =
      (footprint.apply first (other.apply second broker)).journal.filter fun event ↦
        event.session = id := by
  by_cases hfirst : first = id
  · subst hfirst
    rw [journal_apply_of_ne hother hne.symm, journal_apply, journal_apply,
      journal_apply_of_ne hother hne.symm]
  · by_cases hsecond : second = id
    · subst hsecond
      rw [journal_apply, journal_apply_of_ne hown hne, journal_apply_of_ne hown hne, journal_apply]
    · rw [journal_apply_of_ne hother hsecond, journal_apply_of_ne hown hfirst,
        journal_apply_of_ne hown hfirst, journal_apply_of_ne hother hsecond]

theorem sink_apply_comm (hne : first ≠ second) (id : SessionId) :
    (other.apply second (footprint.apply first broker)).sink id =
      (footprint.apply first (other.apply second broker)).sink id := by
  by_cases hfirst : first = id
  · subst hfirst
    rw [sink_apply_of_ne hne.symm, sink_apply, sink_apply, sink_apply_of_ne hne.symm]
  · by_cases hsecond : second = id
    · subst hsecond
      rw [sink_apply, sink_apply_of_ne hne, sink_apply_of_ne hne, sink_apply]
    · rw [sink_apply_of_ne hsecond, sink_apply_of_ne hfirst, sink_apply_of_ne hfirst,
        sink_apply_of_ne hsecond]

theorem mem_entries_apply_comm {key : String} {subscriber : Subscriber} (hne : first ≠ second) :
    (key, subscriber) ∈ (other.apply second (footprint.apply first broker)).table.entries ↔
      (key, subscriber) ∈ (footprint.apply first (other.apply second broker)).table.entries := by
  obtain ⟨id, subscription⟩ := subscriber
  rw [mem_entries_apply, mem_entries_apply, mem_entries_apply, mem_entries_apply]
  by_cases hfirst : id = first
  · have hsecond : id ≠ second := fun heq ↦ hne (hfirst.symm.trans heq)
    simp only [hsecond, and_false, false_or, not_false_eq_true, and_true]
  · simp only [hfirst, and_false, false_or, not_false_eq_true, and_true]

/-- The order of two footprints of different sessions leaves no trace. -/
theorem interchanged_apply (hproper : Proper broker) (hown : footprint.Own first)
    (hother : other.Own second) (hne : first ≠ second) :
    Interchanged (other.apply second (footprint.apply first broker))
      (footprint.apply first (other.apply second broker)) := by
  constructor
  case sessions => exact sessions_apply_comm hown hother hne
  case users =>
    have husers := hproper.registry.users
    refine (proper_users_apply (proper_users_apply husers)).toFinset_lookup_eq
      (proper_users_apply (proper_users_apply husers)) fun username id ↦ ?_
    rw [mem_pairs_users_apply, mem_pairs_users_apply, mem_pairs_users_apply,
      mem_pairs_users_apply]
    exact or_left_comm
  case destinations =>
    have htable := hproper.table
    refine (proper_table_apply (proper_table_apply htable)).toFinset_lookup_eq
      (proper_table_apply (proper_table_apply htable)) fun key subscriber ↦ ?_
    exact mem_entries_apply_comm hne
  case sinks => exact sink_apply_comm hne
  case departed => rfl
  case closing => rfl
  case nextMessageId => rfl
  case journal => exact journal_apply_comm hown hother hne

/-! ### Frames of two sessions -/

/-- Whether a frame of one session or a frame of the other comes first makes no difference: their
connections stay open or are closed all the same, and the broker is the same in the end. -/
structure Commute (setting setting' : Setting) (broker : Broker) (first second : SessionId)
    (frame frame' : Frame) : Prop where
  flowFirst : (broker.handleFrame setting first frame).1 =
    ((broker.handleFrame setting' second frame').2.handleFrame setting first frame).1
  flowSecond : ((broker.handleFrame setting first frame).2.handleFrame setting' second frame').1 =
    (broker.handleFrame setting' second frame').1
  interchanged : Interchanged
    ((broker.handleFrame setting first frame).2.handleFrame setting' second frame').2
    ((broker.handleFrame setting' second frame').2.handleFrame setting first frame).2

/-- Frames of different live sessions commute, unless one of them sends a message. -/
theorem commute_handleFrame {allowed : Setting → Broker → Operation → Prop}
    (h : Reachable allowed broker) (setting setting' : Setting) {frame frame' : Frame}
    (hne : first ≠ second) (hfirst : broker.registry.get? first ≠ none)
    (hsecond : broker.registry.get? second ≠ none) (hframe : frame.command ≠ .send)
    (hframe' : frame'.command ≠ .send) :
    Commute setting setting' broker first second frame frame' := by
  obtain ⟨session, hsession⟩ := Option.ne_none_iff_exists'.mp hfirst
  obtain ⟨session', hsession'⟩ := Option.ne_none_iff_exists'.mp hsecond
  obtain rfl := Registry.id_of_get? hsession
  obtain rfl := Registry.id_of_get? hsession'
  obtain ⟨flow, footprint, hown, happly⟩ :=
    exists_footprint_handleFrame setting session (broker.sink session.id) hframe
  obtain ⟨flow', footprint', hown', happly'⟩ :=
    exists_footprint_handleFrame setting' session' (broker.sink session'.id) hframe'
  -- Each footprint is the same before and after the other one.
  have hbefore := happly broker hsession rfl
  have hbefore' := happly' broker hsession' rfl
  have hafter := happly (footprint'.apply session'.id broker)
    ((get?_apply_of_ne hown' hne.symm).trans hsession) (sink_apply_of_ne hne.symm)
  have hafter' := happly' (footprint.apply session.id broker)
    ((get?_apply_of_ne hown hne).trans hsession') (sink_apply_of_ne hne)
  dsimp only at hbefore hbefore' hafter hafter'
  constructor
  case flowFirst => rw [hbefore', hafter, hbefore]
  case flowSecond => rw [hbefore, hafter', hbefore']
  case interchanged =>
    rw [hbefore, hbefore', hafter, hafter']
    exact interchanged_apply h.proper hown hown' hne

/-- A client that subscribes again under an id of its own does not get in the way of another one
that subscribes to the same destination under the same id. -/
theorem commute_handleFrame_subscribe :
    Reachable FromWire Forgery.prepared ∧ Forgery.receiver ≠ Forgery.sender ∧
      Forgery.prepared.registry.get? Forgery.receiver ≠ none ∧
      Forgery.prepared.registry.get? Forgery.sender ≠ none ∧
      Forgery.subscribe.command ≠ .send ∧
      Commute Forgery.setting Forgery.setting Forgery.prepared Forgery.receiver Forgery.sender
        Forgery.subscribe Forgery.subscribe := by
  have hne : Forgery.receiver ≠ Forgery.sender := by decide
  have hreceiver : Forgery.prepared.registry.get? Forgery.receiver ≠ none := by decide
  have hsender : Forgery.prepared.registry.get? Forgery.sender ≠ none := by decide
  have hcommand : Forgery.subscribe.command ≠ .send := by decide
  exact ⟨Forgery.reachable_prepared, hne, hreceiver, hsender, hcommand,
    commute_handleFrame Forgery.reachable_prepared Forgery.setting Forgery.setting hne hreceiver
      hsender hcommand hcommand⟩

end Broker

end StompBroker
