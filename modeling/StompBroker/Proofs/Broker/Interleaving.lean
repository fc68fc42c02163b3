import Mathlib.Logic.Function.Basic
import StompBroker.Proofs.Broker.Access
import StompBroker.Proofs.Broker.Fanout

/-!
# Tasks side by side

The read loops of all sessions, those who take sessions out, and publishers run at the same time. In
a `World` each of them stands between two accesses to what they share, and a `Step` is one access:
to the registry, to the record of one session, to the table, or to one sink. Whoever is to go on
next is left open, so the runs of a world are all orders in which the accesses may happen.

A `Reader` processes one frame after the other. A frame starts with a look for its session in the
registry (`Reader.begin`), and goes on with what it found, also if the session is taken out
meanwhile (`Reader.advance`). A session is taken out by whoever removes it from the registry; its
own record and the table follow, one after the other (`Departure`). A publisher takes the
subscribers of a destination, then their sessions, and then writes to them in any order (`Stage`).

Without a step of others in between, the accesses of a task make up what the broker does as one
operation: `detach_eq_accesses`, `proceed_begin_subscribe`, `proceed_begin_unsubscribe`,
`proceed_connecting` and `exists_run_publish`.
-/

set_option autoImplicit false

namespace StompBroker

/-! ### Accesses -/

/-- The session was told to stop, and its map is empty. -/
def Session.vacate (session : Session) : Session :=
  { session with subscriptions := [], cancelled := true }

namespace Broker

/-- Changes the record of a session, which whoever found it can do even when it is not live. -/
def revise (broker : Broker) (id : SessionId) (change : Session → Session) : Broker :=
  { broker with
    registry := broker.registry.update id change
    departed := broker.departed.map fun session ↦
      if session.id = id then change session else session }

/-- Takes a session out of the registry, and out of nothing else. -/
def strike (broker : Broker) (id : SessionId) : Broker :=
  match broker.registry.remove id with
  | (none, _) => broker
  | (some session, registry) =>
    { broker with registry, departed := broker.departed ++ [session] }

end Broker

/-! ### Tasks -/

/-- Where the read loop of a session stands. -/
inductive Reader where
  /-- The session was not opened yet. -/
  | absent
  /-- Waits for a frame. -/
  | waiting
  /-- Is to record an accepted handshake in the session. -/
  | connecting (username : String) (version : Version)
  /-- Is to list the session under its user. -/
  | listing (username : String)
  /-- Is to record a subscription in the session. -/
  | subscribing (subscription key : String)
  /-- Is to enter a recorded subscription into the table. -/
  | entering (subscription key : String)
  /-- Is to drop a subscription from the session's record. -/
  | unsubscribing (subscription : String)
  /-- Is to take a dropped subscription out of the table. -/
  | withdrawing (subscription key : String)
  /-- Reads no more, and is to take the session out. -/
  | leaving
  /-- Is taking the session out. -/
  | closing
  | ended
  deriving DecidableEq, Repr

/-- How far a session was taken out. -/
inductive Departure where
  | staying
  /-- It is not in the registry anymore. -/
  | removed
  /-- Its own map is empty, too. -/
  | emptied
  /-- The table was cleared of it. -/
  | finished
  deriving DecidableEq, Repr

/-- A subscription that a publisher is to write to. -/
structure Target where
  session : Session
  subscription : String
  number : UInt64

def Target.subscriber (target : Target) : Subscriber := ⟨target.session.id, target.subscription⟩

/-- Where a publisher stands. -/
inductive Stage where
  | idle
  /-- Has the subscribers, and is to find their sessions. -/
  | selected (message : Message) (subscribers : List Subscriber)
  /-- Is to write to the targets that are left. -/
  | writing (message : Message) (pending : List Target)

/-- One who publishes, one message after the other. -/
structure Publisher where
  /-- What was issued so far, the current message included. -/
  issued : List Message := []
  stage : Stage := .idle

/-- An attempt of a publisher to write one of its messages, which are counted from zero. -/
structure Delivery where
  publisher : Nat
  index : Nat
  message : Message
  attempt : Attempt

/-- The broker, and where all tasks stand. -/
structure World where
  broker : Broker := {}
  readers : SessionId → Reader := fun _ ↦ .absent
  departures : SessionId → Departure := fun _ ↦ .staying
  publishers : Nat → Publisher := fun _ ↦ {}
  deliveries : List Delivery := []

namespace World

def setReader (world : World) (id : SessionId) (reader : Reader) : World :=
  { world with readers := Function.update world.readers id reader }

def setDeparture (world : World) (id : SessionId) (departure : Departure) : World :=
  { world with departures := Function.update world.departures id departure }

def setPublisher (world : World) (name : Nat) (publisher : Publisher) : World :=
  { world with publishers := Function.update world.publishers name publisher }

def setBroker (world : World) (broker : Broker) : World :=
  { world with broker }

section

variable {world : World} {id other : SessionId} {reader : Reader} {departure : Departure}
  {broker : Broker} {name rival : Nat} {publisher : Publisher}

@[simp]
theorem readers_setReader : (world.setReader other reader).readers id =
    if id = other then reader else world.readers id := by
  simp only [setReader, Function.update_apply]

@[simp]
theorem departures_setReader : (world.setReader id reader).departures = world.departures :=
  rfl

@[simp]
theorem broker_setReader : (world.setReader id reader).broker = world.broker :=
  rfl

@[simp]
theorem readers_setDeparture : (world.setDeparture id departure).readers = world.readers :=
  rfl

@[simp]
theorem departures_setDeparture : (world.setDeparture other departure).departures id =
    if id = other then departure else world.departures id := by
  simp only [setDeparture, Function.update_apply]

@[simp]
theorem broker_setDeparture : (world.setDeparture id departure).broker = world.broker :=
  rfl

@[simp]
theorem readers_setBroker : (world.setBroker broker).readers = world.readers :=
  rfl

@[simp]
theorem departures_setBroker : (world.setBroker broker).departures = world.departures :=
  rfl

@[simp]
theorem publishers_setBroker : (world.setBroker broker).publishers = world.publishers :=
  rfl

@[simp]
theorem broker_setBroker : (world.setBroker broker).broker = broker :=
  rfl

@[simp]
theorem publishers_setPublisher : (world.setPublisher rival publisher).publishers name =
    if name = rival then publisher else world.publishers name := by
  simp only [setPublisher, Function.update_apply]

theorem stage_setPublisher :
    ((world.setPublisher name publisher).publishers name).stage = publisher.stage := by
  simp

end

end World

/-! ### Read loops -/

namespace Reader

/-- What a frame is about to do to a session that was found. -/
def begin (setting : Broker.Setting) (session : Session) (frame : Frame) : Reader :=
  if frame.command.isServerCommand then leaving
  else if session.authenticated then
    match frame.command with
    | .subscribe =>
      match frame.header? Header.id, frame.header? Header.destination with
      | some subscription, some destination =>
        match Broker.subscriptionKey? session.username destination with
        | some key => subscribing subscription key
        | none => waiting
      | _, _ => leaving
    | .unsubscribe =>
      match frame.header? Header.id with
      | some subscription => unsubscribing subscription
      | none => leaving
    | .send => if (frame.header? Header.destination).isSome then waiting else leaving
    | .ack | .nack | .begin | .commit | .abort => waiting
    | _ => leaving
  else if frame.command.isConnectFamily then
    match Version.negotiate (frame.header? Header.acceptVersion),
      (Broker.connectToken? frame).map (setting.auth.parse setting.clock) with
    | some version, some (.ok claims) => connecting claims.username version
    | _, _ => leaving
  else leaving

/-- The next access of a read loop that is processing a frame. -/
def advance (id : SessionId) (broker : Broker) : Reader → Reader × Broker
  | connecting username version =>
    (listing username, broker.revise id (·.authenticate username version))
  | listing username =>
    match broker.registry.bind id username with
    | .ok registry => (waiting, { broker with registry })
    | .error _ => (leaving, broker)
  | subscribing subscription key =>
    match (broker.session? id).bind (·.subscribe? subscription key) with
    | some subscribed => (entering subscription key, broker.revise id fun _ ↦ subscribed)
    | none => (leaving, broker)
  | entering subscription key =>
    (waiting, { broker with table := broker.table.add key ⟨id, subscription⟩ })
  | unsubscribing subscription =>
    match (broker.session? id).bind (·.subscriptions.lookup subscription) with
    | some key => (withdrawing subscription key, broker.revise id (·.unsubscribe subscription))
    | none => (waiting, broker)
  | withdrawing subscription key =>
    (waiting, { broker with table := (broker.table.remove key ⟨id, subscription⟩).2 })
  | reader => (reader, broker)

/-- Two accesses without a step of others in between. -/
def proceed (id : SessionId) (broker : Broker) (reader : Reader) : Reader × Broker :=
  (reader.advance id broker).1.advance id (reader.advance id broker).2

end Reader

/-! ### Steps -/

namespace World

/-- The read loop of a session makes its next access. -/
def advance (world : World) (id : SessionId) : World :=
  (world.setBroker ((world.readers id).advance id world.broker).2).setReader id
    ((world.readers id).advance id world.broker).1

/-- One access that concerns a session: of its read loop, of whoever takes it out, or of whoever
writes something other than a message to it. -/
inductive SessionStep (setting : Broker.Setting) (id : SessionId) (world : World) : World → Prop
  | opened (sink : Sink) : world.readers id = .absent →
      SessionStep setting id world
        ((world.setBroker (world.broker.openSession setting id sink)).setReader id .waiting)
  | found {session : Session} (frame : Frame) : world.readers id = .waiting →
      world.broker.registry.get? id = some session →
        SessionStep setting id world (world.setReader id (.begin setting session frame))
  | missed : world.readers id = .waiting → world.broker.registry.get? id = none →
      SessionStep setting id world (world.setReader id .leaving)
  | advanced : SessionStep setting id world (world.advance id)
  /-- The peer, the session or the reading itself has come to an end. -/
  | stopped : world.readers id = .waiting →
      SessionStep setting id world (world.setReader id .leaving)
  /-- Somebody else takes the session out. -/
  | removed {session : Session} : world.broker.registry.get? id = some session →
      SessionStep setting id world
        ((world.setBroker (world.broker.strike id)).setDeparture id .removed)
  /-- The read loop takes the session out itself. -/
  | left {session : Session} : world.readers id = .leaving →
      world.broker.registry.get? id = some session →
        SessionStep setting id world
          (((world.setBroker (world.broker.strike id)).setDeparture id .removed).setReader id
            .closing)
  /-- There is nothing left to take out. -/
  | leftBehind : world.readers id = .leaving → world.broker.registry.get? id = none →
      SessionStep setting id world (world.setReader id .ended)
  | closed : world.readers id = .closing → world.departures id = .finished →
      SessionStep setting id world (world.setReader id .ended)
  | emptied : world.departures id = .removed →
      SessionStep setting id world
        ((world.setBroker (world.broker.revise id Session.vacate)).setDeparture id .emptied)
  | finished : world.departures id = .emptied →
      SessionStep setting id world
        ((world.setBroker
          { world.broker with table := (world.broker.table.removeSession id).2 }).setDeparture id
            .finished)
  | sinkClosed : world.departures id = .finished →
      SessionStep setting id world (world.setBroker (world.broker.closeSink id))
  | replied {frame : Frame} (version : Version) (freeAt : Nat) : frame.command ≠ .message →
      SessionStep setting id world
        (world.setBroker (world.broker.write id version frame freeAt setting.writeTimeout).2.2)

/-- The targets of a message, with the numbers from the next one on. -/
def numbered (next : UInt64) : List (Session × String) → List Target
  | [] => []
  | (session, subscription) :: rest => ⟨session, subscription, next⟩ :: numbered (next + 1) rest

/-- Writes a message of a publisher to one of its targets. -/
def writeTo (setting : Broker.Setting) (world : World) (name : Nat) (message : Message)
    (target : Target) (rest : List Target) (freeAt : Nat) : World :=
  let publisher := world.publishers name
  let frame := Frame.message message.destination target.subscription (toString target.number)
    message.contentType message.body
  let written := world.broker.write target.session.id target.session.version frame freeAt
    setting.writeTimeout
  let attempt : Attempt := ⟨target.session, target.subscription, target.number, written.1⟩
  { (world.setPublisher name { publisher with stage := .writing message rest }) with
    broker := written.2.2
    deliveries := world.deliveries ++ [⟨name, publisher.issued.length - 1, message, attempt⟩] }

@[simp]
theorem publishers_writeTo {setting : Broker.Setting} {world : World} {name rival : Nat}
    {message : Message} {target : Target} {rest : List Target} {freeAt : Nat} :
    (world.writeTo setting name message target rest freeAt).publishers rival =
      if rival = name then { world.publishers name with stage := .writing message rest }
      else world.publishers rival :=
  publishers_setPublisher

/-- One access of a publisher. -/
inductive PublisherStep (setting : Broker.Setting) (name : Nat) (world : World) : World → Prop
  | published (message : Message) : (world.publishers name).stage = .idle →
      PublisherStep setting name world
        (world.setPublisher name
          { issued := (world.publishers name).issued ++ [message]
            stage := .selected message (world.broker.table.subscribers message.destination) })
  | resolved {message : Message} {subscribers : List Subscriber} :
      (world.publishers name).stage = .selected message subscribers →
        PublisherStep setting name world
          ((world.setBroker { world.broker with
            nextMessageId := world.broker.nextMessageId +
              .ofNat (Broker.targets world.broker.registry subscribers).length }).setPublisher name
              { (world.publishers name) with
                stage := .writing message (numbered world.broker.nextMessageId
                  (Broker.targets world.broker.registry subscribers)) })
  | wrote {message : Message} (front : List Target) (target : Target) (back : List Target)
    (freeAt : Nat) : (world.publishers name).stage = .writing message (front ++ target :: back) →
      PublisherStep setting name world
        (world.writeTo setting name message target (front ++ back) freeAt)
  | rested {message : Message} : (world.publishers name).stage = .writing message [] →
      PublisherStep setting name world
        (world.setPublisher name { (world.publishers name) with stage := .idle })

/-- One access of any task; the clock goes on in between. -/
inductive Step (world : World) : World → Prop
  | session {after : World} (setting : Broker.Setting) (id : SessionId) :
      SessionStep setting id world after → Step world after
  | publisher {after : World} (setting : Broker.Setting) (name : Nat) :
      PublisherStep setting name world after → Step world after

/-- Any number of accesses in any order. -/
abbrev Run : World → World → Prop :=
  Relation.ReflTransGen Step

end World

/-! ### Accesses without others in between -/

namespace Broker

variable {setting : Setting} {broker after : Broker} {session : Session} {id : SessionId}
  {frame : Frame}

theorem update_of_get?_eq_none {registry : Registry} {change : Session → Session}
    (h : registry.get? id = none) : registry.update id change = registry := by
  have hne : ∀ session ∈ registry.sessions, session.id ≠ id := by
    intro session hmem
    simpa using List.find?_eq_none.mp h session hmem
  have hsessions : registry.sessions.map (fun session ↦
      if session.id = id then change session else session) = registry.sessions := by
    conv_rhs => rw [← List.map_id registry.sessions]
    exact List.map_congr_left fun session hmem ↦ if_neg (hne session hmem)
  rw [Registry.update, hsessions]

theorem map_departed {change : Session → Session} {departed : List Session}
    (h : ∀ session ∈ departed, session.id ≠ id) :
    departed.map (fun session ↦ if session.id = id then change session else session) =
      departed := by
  conv_rhs => rw [← List.map_id departed]
  exact List.map_congr_left fun session hmem ↦ if_neg (h session hmem)

/-- A live session has no record among those that have left. -/
theorem Consistent.ne_of_mem_departed (h : Consistent broker)
    (hlive : broker.registry.get? id = some session) :
    ∀ departed ∈ broker.departed, departed.id ≠ id := by
  intro departed hmem hid
  have hnone := h.departed departed hmem
  rw [hid, hlive] at hnone
  cases hnone

theorem Consistent.revise_of_get? (h : Consistent broker)
    (hlive : broker.registry.get? id = some session) (change : Session → Session) :
    broker.revise id change = { broker with registry := broker.registry.update id change } := by
  rw [revise, map_departed (h.ne_of_mem_departed hlive)]

theorem strike_of_get? (hlive : broker.registry.get? id = some session) :
    broker.strike id =
      { broker with
        registry := (broker.registry.remove id).2
        departed := broker.departed ++ [session] } := by
  rw [strike, Registry.remove_of_some hlive]

/-- Taking a session out is three accesses. -/
theorem Consistent.detach_eq_accesses (h : Consistent broker)
    (hlive : broker.registry.get? id = some session) :
    (broker.detach id).2 =
      { (broker.strike id).revise id Session.vacate with
        table := (broker.table.removeSession id).2 } := by
  have hid : session.id = id := Registry.id_of_get? hlive
  have hgone : (broker.registry.remove id).2.get? id = none := by
    rw [Registry.get?_remove, if_pos rfl]
  have hlast : [session].map (fun departed ↦
      if departed.id = id then departed.vacate else departed) = [session.vacate] := by
    rw [List.map_singleton, if_pos hid]
  rw [detach_of_some hlive, strike_of_get? hlive]
  simp only [revise]
  rw [update_of_get?_eq_none hgone, List.map_append,
    map_departed (h.ne_of_mem_departed hlive), hlast]
  rfl

theorem begin_of_authenticated (hauthenticated : session.authenticated = true)
    (hserver : frame.command.isServerCommand = false) :
    Reader.begin setting session frame =
      match frame.command with
      | .subscribe =>
        match frame.header? Header.id, frame.header? Header.destination with
        | some subscription, some destination =>
          match subscriptionKey? session.username destination with
          | some key => .subscribing subscription key
          | none => .waiting
        | _, _ => .leaving
      | .unsubscribe =>
        match frame.header? Header.id with
        | some subscription => .unsubscribing subscription
        | none => .leaving
      | .send => if (frame.header? Header.destination).isSome then .waiting else .leaving
      | .ack | .nack | .begin | .commit | .abort => .waiting
      | _ => .leaving := by
  rw [Reader.begin, if_neg (by rw [hserver]; exact Bool.false_ne_true), if_pos hauthenticated]

/-- Where a read loop stands that processed a frame. -/
def outcome (broker : Broker) : Except Failure Broker → Reader × Broker
  | .ok after => (.waiting, after)
  | .error _ => (.leaving, broker)

/-- A SUBSCRIBE is two accesses. -/
theorem Consistent.proceed_begin_subscribe (h : Consistent broker)
    (hlive : broker.registry.get? session.id = some session)
    (hauthenticated : session.authenticated = true) (hcommand : frame.command = .subscribe) :
    (Reader.begin setting session frame).proceed session.id broker =
      broker.outcome (broker.handleSubscribe session frame) := by
  have hserver : frame.command.isServerCommand = false := by rw [hcommand]; rfl
  rw [begin_of_authenticated hauthenticated hserver, hcommand, handleSubscribe]
  cases frame.header? Header.id with
  | none => rfl
  | some subscription =>
    cases frame.header? Header.destination with
    | none => rfl
    | some destination =>
      simp only
      cases subscriptionKey? session.username destination with
      | none => rfl
      | some key =>
        simp only [Reader.proceed, Reader.advance]
        rw [session?_of_get? hlive, Option.bind_some]
        cases session.subscribe? subscription key with
        | none => rfl
        | some subscribed =>
          simp only
          rw [h.revise_of_get? hlive]
          rfl

/-- An UNSUBSCRIBE is two accesses. -/
theorem Consistent.proceed_begin_unsubscribe (h : Consistent broker)
    (hlive : broker.registry.get? session.id = some session)
    (hauthenticated : session.authenticated = true) (hcommand : frame.command = .unsubscribe) :
    (Reader.begin setting session frame).proceed session.id broker =
      broker.outcome (broker.handleUnsubscribe session frame) := by
  have hserver : frame.command.isServerCommand = false := by rw [hcommand]; rfl
  rw [begin_of_authenticated hauthenticated hserver, hcommand, handleUnsubscribe]
  cases frame.header? Header.id with
  | none => rfl
  | some subscription =>
    simp only [Reader.proceed, Reader.advance]
    rw [session?_of_get? hlive, Option.bind_some]
    cases session.subscriptions.lookup subscription with
    | none => rfl
    | some key =>
      simp only
      rw [h.revise_of_get? hlive]
      rfl

theorem begin_of_accepted {username : String} {version : Version}
    (hnew : session.authenticated = false) (h : Accepted setting frame username version) :
    Reader.begin setting session frame = .connecting username version := by
  obtain ⟨token, claims, htoken, hparse, rfl⟩ := h.token
  have hversion := Version.negotiate_eq_some_iff.mpr h.version
  have hserver : frame.command.isServerCommand = false := by
    rcases h.command with hcommand | hcommand <;> rw [hcommand] <;> rfl
  have hfamily : frame.command.isConnectFamily = true := by
    rcases h.command with hcommand | hcommand <;> rw [hcommand] <;> rfl
  rw [Reader.begin, hserver, hnew, hfamily, hversion, connectToken?_eq_some_iff.mpr htoken,
    Option.map_some, hparse]
  rfl

/-- A handshake that holds is two accesses. -/
theorem Consistent.proceed_connecting (h : Consistent broker)
    (hlive : broker.registry.get? session.id = some session) (username : String)
    (version : Version) :
    ∃ after, broker.enrol session username version = .ok after ∧
      (Reader.connecting username version).proceed session.id broker = (.waiting, after) := by
  obtain ⟨after, henrol⟩ := exists_enrol hlive username version
  obtain ⟨registry, hbind, rfl⟩ := enrol_eq_ok_iff.mp henrol
  refine ⟨_, henrol, ?_⟩
  simp only [Reader.proceed, Reader.advance]
  rw [h.revise_of_get? hlive]
  simp only
  rw [hbind]

theorem broker_deliverTo (setting : Setting) (message : Message) (fanout : Fanout)
    (session : Session) (subscription : String) :
    (deliverTo setting message.destination message.contentType message.body fanout
        (session, subscription)).broker =
      ({ fanout.broker with nextMessageId := fanout.broker.nextMessageId + 1 }.write session.id
        session.version
        (.message message.destination subscription (toString fanout.broker.nextMessageId)
          message.contentType message.body)
        ((fanout.busy.lookup session.id).getD 0) setting.writeTimeout).2.2 := by
  unfold deliverTo
  simp only
  split <;> rfl

/-! ### What an access touches -/

variable {other : SessionId} {key subscription : String}

theorem id_of_session? {session : Session} (h : broker.session? id = some session) :
    session.id = id := by
  rw [session?_eq_or, Option.or_eq_some_iff] at h
  rcases h with hlive | ⟨-, hdeparted⟩
  · exact Registry.id_of_get? hlive
  · simpa using List.find?_some hdeparted

theorem get?_revise_eq_none_iff {change : Session → Session}
    (hchange : ∀ session : Session, session.id = other → (change session).id = other) :
    (broker.revise other change).registry.get? id = none ↔ broker.registry.get? id = none :=
  Registry.get?_update_eq_none_iff hchange

theorem get?_vacate_eq_none_iff :
    (broker.revise other Session.vacate).registry.get? id = none ↔
      broker.registry.get? id = none :=
  get?_revise_eq_none_iff fun _ heq ↦ heq

/-- A read loop takes no session out and opens none. -/
theorem get?_advance_eq_none_iff (reader : Reader) :
    (reader.advance other broker).2.registry.get? id = none ↔ broker.registry.get? id = none := by
  cases reader with
  | connecting username version => exact get?_revise_eq_none_iff fun _ hid ↦ hid
  | listing username =>
    cases hbind : broker.registry.bind other username with
    | error failure => simp only [Reader.advance, hbind]
    | ok registry =>
      simp only [Reader.advance, hbind]
      rw [Registry.get?_of_bind hbind]
  | subscribing name destination =>
    cases hfound : (broker.session? other).bind (·.subscribe? name destination) with
    | none => simp only [Reader.advance, hfound]
    | some subscribed =>
      simp only [Reader.advance, hfound]
      obtain ⟨session, hsession, hsubscribe⟩ := Option.bind_eq_some_iff.mp hfound
      obtain ⟨-, hsubscribed⟩ := Session.subscribe?_eq_some_iff.mp hsubscribe
      have hid : session.id = other := id_of_session? hsession
      refine get?_revise_eq_none_iff fun _ _ ↦ ?_
      rw [← hsubscribed]
      exact hid
  | unsubscribing name =>
    cases hfound : (broker.session? other).bind (·.subscriptions.lookup name) with
    | none => simp only [Reader.advance, hfound]
    | some destination =>
      simp only [Reader.advance, hfound]
      exact get?_revise_eq_none_iff fun _ hid ↦ hid
  | _ => exact Iff.rfl

/-- Of all accesses of a read loop the last one of a SUBSCRIBE and that of an UNSUBSCRIBE are to the
table. -/
theorem table_advance (reader : Reader) :
    (reader.advance other broker).2.table =
      match reader with
      | .entering name destination => broker.table.add destination ⟨other, name⟩
      | .withdrawing name destination => (broker.table.remove destination ⟨other, name⟩).2
      | _ => broker.table := by
  cases reader with
  | listing username =>
    cases hbind : broker.registry.bind other username <;> simp only [Reader.advance, hbind]
  | subscribing name destination =>
    cases hfound : (broker.session? other).bind (·.subscribe? name destination) <;>
      simp only [Reader.advance, hfound]
    rfl
  | unsubscribing name =>
    cases hfound : (broker.session? other).bind (·.subscriptions.lookup name) <;>
      simp only [Reader.advance, hfound]
    rfl
  | _ => rfl

theorem mem_entries_advance (reader : Reader) :
    (key, ⟨id, subscription⟩) ∈ (reader.advance other broker).2.table.entries ↔
      (other = id ∧ reader = .entering subscription key) ∨
        (key, ⟨id, subscription⟩) ∈ broker.table.entries ∧
          ¬(other = id ∧ reader = .withdrawing subscription key) := by
  rw [table_advance]
  cases reader with
  | entering name destination =>
    rw [SubscriptionTable.mem_entries_add]
    grind
  | withdrawing name destination =>
    rw [SubscriptionTable.mem_entries_remove]
    grind
  | _ => simp

theorem get?_strike :
    (broker.strike other).registry.get? id =
      if other = id then none else broker.registry.get? id := by
  cases hlive : broker.registry.get? other with
  | none =>
    rw [strike, Registry.remove_of_none hlive]
    by_cases hid : other = id
    · rw [if_pos hid, ← hid, hlive]
    · rw [if_neg hid]
  | some session =>
    rw [strike_of_get? hlive]
    exact Registry.get?_remove

theorem table_strike : (broker.strike id).table = broker.table := by
  unfold strike
  split <;> rfl

end Broker

namespace World

variable {setting : Broker.Setting} {world : World} {name : Nat} {message : Message}

/-- A publisher that writes to its targets in their order does what a delivery does. -/
theorem exists_run_writes (setting : Broker.Setting) {counter : UInt64}
    {targets : List (Session × String)} (fanout : Broker.Fanout)
    (hstage : (world.publishers name).stage =
      .writing message (numbered fanout.broker.nextMessageId targets))
    (hbroker : world.broker = { fanout.broker with nextMessageId := counter }) :
    ∃ after, Run world after ∧ (after.publishers name).stage = .writing message [] ∧
      after.broker =
        { (targets.foldl
            (Broker.deliverTo setting message.destination message.contentType message.body)
            fanout).broker with
          nextMessageId := counter } := by
  induction targets generalizing world fanout with
  | nil => exact ⟨world, .refl, hstage, hbroker⟩
  | cons target targets ih =>
    obtain ⟨session, subscription⟩ := target
    let first : Target := ⟨session, subscription, fanout.broker.nextMessageId⟩
    let written := world.writeTo setting name message first
      (numbered (fanout.broker.nextMessageId + 1) targets)
      ((fanout.busy.lookup session.id).getD 0)
    have hstep : Step world written := .publisher setting name (.wrote [] first _ _ hstage)
    have hdelivered := Broker.broker_deliverTo setting message fanout session subscription
    have hpending : (written.publishers name).stage = .writing message
        (numbered (Broker.deliverTo setting message.destination message.contentType message.body
          fanout (session, subscription)).broker.nextMessageId targets) := by
      have hcounter : (Broker.deliverTo setting message.destination message.contentType
          message.body fanout (session, subscription)).broker.nextMessageId =
            fanout.broker.nextMessageId + 1 := by
        rw [hdelivered]
        rfl
      rw [hcounter]
      simp [written]
    have hwritten : written.broker =
        { (Broker.deliverTo setting message.destination message.contentType message.body fanout
            (session, subscription)).broker with nextMessageId := counter } := by
      rw [hdelivered]
      simp only [written, writeTo, hbroker]
      rfl
    obtain ⟨after, hrun, hdone, hafter⟩ := ih _ hpending hwritten
    exact ⟨after, .head hstep hrun, hdone, hafter⟩

/-- A publisher can always finish; alone it does what the broker does for a published message,
before it takes sessions out. -/
theorem exists_run_publish (message : Message) (hidle : (world.publishers name).stage = .idle) :
    ∃ after, Run world after ∧ (after.publishers name).stage = .idle ∧
      after.broker =
        ((Broker.targets world.broker.registry
          (world.broker.table.subscribers message.destination)).foldl
            (Broker.deliverTo setting message.destination message.contentType message.body)
            { broker := world.broker }).broker := by
  let subscribers := world.broker.table.subscribers message.destination
  let targets := Broker.targets world.broker.registry subscribers
  let issued := world.setPublisher name
    { issued := (world.publishers name).issued ++ [message]
      stage := .selected message subscribers }
  have hselected : (issued.publishers name).stage = .selected message subscribers :=
    stage_setPublisher
  obtain ⟨resolved, hresolve, hpending, hbroker⟩ : ∃ resolved, Step issued resolved ∧
      (resolved.publishers name).stage =
        .writing message (numbered world.broker.nextMessageId targets) ∧
      resolved.broker =
        { world.broker with
          nextMessageId := world.broker.nextMessageId + .ofNat targets.length } :=
    ⟨_, .publisher setting name (.resolved hselected), stage_setPublisher,
      rfl⟩
  obtain ⟨written, hrun, hdone, hwritten⟩ := exists_run_writes setting
    { broker := world.broker } hpending hbroker
  obtain ⟨attempts, htargets, hattempted⟩ := Broker.exists_attempted_foldl setting message targets
    { broker := world.broker }
  have hlength : attempts.length = targets.length := by
    rw [← htargets, List.length_map]
  have hcounter := hattempted.counter
  rw [hlength] at hcounter
  let rested := written.setPublisher name { written.publishers name with stage := .idle }
  have hrest : Step written rested := .publisher setting name (.rested hdone)
  refine ⟨rested, ?_, stage_setPublisher, ?_⟩
  · exact ((Relation.ReflTransGen.single (.publisher setting name (.published message hidle))).tail
      hresolve).trans (hrun.tail hrest)
  · change written.broker = _
    rw [hwritten, ← hcounter]

end World

/-! ### A client that subscribes -/

namespace World.Client

open Broker

def opened : World :=
  (({} : World).setBroker (openSession Forgery.setting {} Forgery.receiver {})).setReader
    Forgery.receiver .waiting

/-- The read loop has found the session for a handshake. -/
def connecting : World := opened.setReader Forgery.receiver (.connecting "u" .v10)

def connected : World := (connecting.advance Forgery.receiver).advance Forgery.receiver

/-- The read loop has found the session for a SUBSCRIBE. -/
def subscribing : World := connected.setReader Forgery.receiver (.subscribing "0" "/topic/x")

theorem accepted_connect :
    Accepted Forgery.setting (Forgery.connect Forgery.token "1.0") "u" .v10 := by
  have hversion : Version.negotiate
      ((Forgery.connect Forgery.token "1.0").header? Header.acceptVersion) = some .v10 := by
    with_unfolding_all rfl
  have htoken : connectToken? (Forgery.connect Forgery.token "1.0") = some Forgery.token :=
    Forgery.connectToken?_connect (WebToken.isEmpty_sign _ _) "1.0"
  exact ⟨.inl rfl, Version.negotiate_eq_some_iff.mp hversion, Forgery.token, Forgery.claims,
    connectToken?_eq_some_iff.mp htoken, Forgery.parse_token, rfl⟩

theorem run_subscribing : Run {} subscribing := by
  have hopened : Step {} opened := .session Forgery.setting Forgery.receiver (.opened {} rfl)
  have hconnecting : Step opened connecting := by
    have hnew : (Forgery.fresh Forgery.receiver).authenticated = false := rfl
    have hbegin := begin_of_accepted hnew accepted_connect
    rw [connecting, ← hbegin]
    exact .session Forgery.setting Forgery.receiver
      (.found (Forgery.connect Forgery.token "1.0") rfl rfl)
  have hauthenticated : Step connecting (connecting.advance Forgery.receiver) :=
    .session Forgery.setting Forgery.receiver .advanced
  have hconnected : Step (connecting.advance Forgery.receiver) connected :=
    .session Forgery.setting Forgery.receiver .advanced
  have hsubscribing : Step connected subscribing := by
    have hbegin : Reader.begin Forgery.setting ((Forgery.fresh Forgery.receiver).authenticate "u"
        .v10) Forgery.subscribe = .subscribing "0" "/topic/x" := rfl
    rw [subscribing, ← hbegin]
    exact .session Forgery.setting Forgery.receiver (.found Forgery.subscribe rfl rfl)
  exact ((((Relation.ReflTransGen.single hopened).tail hconnecting).tail hauthenticated).tail
    hconnected).tail hsubscribing

end World.Client

end StompBroker
