import StompBroker.Proofs.Broker.Reading

/-!
# The life of a connection

A `Link` is the reading half of a session while it has one, and the broker. It takes `Turn`s:
an arrival is served, others ask something of the broker in between, or the reading half panics,
wherever it stands, and the session is closed.

What holds of the broker in all of this is `Upheld`, in one form while the connection goes on and in
another from its end. One frame keeps the first or leads to the second (`Upheld.dispatch`), and so
do the frames of a message after each other (`Upheld.heard`, `Upheld.halt`), an arrival
(`Upheld.step`), and a panic (`Upheld.breaks`). With what the reading half itself remembers that
makes an invariant of turns, which is `Lasting`.

What a connection owes to its client and to the broker follows: when it ends, what the client is
told, and what is left of its session (`conducted_of_turns`).
-/

set_option autoImplicit false

namespace StompBroker

open Broker

/-- The reading half of a session before and after it ends, and the broker. -/
structure Link where
  socket : Option Socket
  broker : Broker
  /-- All frames that were dispatched so far. -/
  handled : List Handled := []

variable {setting : Setting} {id : SessionId} {socket : Socket} {origin broker after : Broker}
  {reading middle : Reading} {frames : List Frame} {handled : List Handled} {flow : Flow}

/-! ### Turns -/

/-- One thing that happens to a connection or around it. -/
inductive Turn (id : SessionId) : Link → Link → Prop
  | arrived {setting : Setting} {socket : Socket} {broker : Broker} {arrival : Arrival}
    {earlier handled : List Handled} :
    socket.Serves setting broker arrival handled →
      Turn id ⟨some socket, broker, earlier⟩
        ⟨(socket.serve setting broker arrival).1, (socket.serve setting broker arrival).2,
          earlier ++ handled⟩
  /-- Others ask something of the broker, also after the end of the connection. -/
  | others {setting : Setting} {socket : Option Socket} {broker : Broker} {operation : Operation}
    {handled : List Handled} :
    operation.Fresh broker → operation.Foreign id →
      Turn id ⟨socket, broker, handled⟩ ⟨socket, broker.run setting operation, handled⟩
  | panicked {setting : Setting} {socket : Socket} {broker broken : Broker}
    {earlier handled : List Handled} :
    socket.Breaks setting broker handled broken →
      Turn id ⟨some socket, broker, earlier⟩ ⟨none, broken.closeSession id, earlier ++ handled⟩

/-- Any number of turns. -/
abbrev Turns (id : SessionId) : Link → Link → Prop :=
  Relation.ReflTransGen (Turn id)

/-- A session that was just opened. -/
def Link.opened (setting : Setting) (origin : Broker) (id : SessionId) (sink : Sink)
    (maxFrameBytes : Nat) : Link :=
  ⟨some (.fresh id maxFrameBytes), origin.openSession setting id sink, []⟩

/-! ### What is upheld -/

namespace Broker

/-- What holds of the broker while the session of a connection goes on, and once it does not: the
books agree, no connection is forgotten, and the client was told what a client is told. -/
structure Upheld (flow : Flow) (id : SessionId) (origin broker : Broker) : Prop where
  consistent : Consistent broker
  swept : Swept broker
  record : broker.OnRecord id
  told : ∃ frames, Tells origin broker id frames ∧ Answered (broker.identity? id) frames flow

/-- The reading half knows of the handshake what the broker knows of it. -/
structure Mirrors (id : SessionId) (broker : Broker) (socket : Socket) : Prop where
  own : socket.id = id
  known : socket.authenticated = true → broker.identity? id ≠ none
  live : ∀ session, broker.registry.get? id = some session → session.authenticated = true →
    socket.authenticated = true

theorem Upheld.stopped (h : Upheld flow id origin broker) : Upheld .close id origin broker := by
  obtain ⟨frames, htells, hanswered⟩ := h.told
  exact ⟨h.consistent, h.swept, h.record, frames, htells, hanswered.conversation⟩

theorem Upheld.opened (hconsistent : Consistent origin) (hswept : Swept origin)
    (hfresh : origin.session? id = none) (setting : Setting) (sink : Sink) :
    Upheld .continue id origin (origin.openSession setting id sink) := by
  have hget : (origin.openSession setting id sink).registry.get? id =
      some { id, connectTime := setting.clock.millis } := Registry.get?_add.trans (if_pos rfl)
  have hidentity : (origin.openSession setting id sink).identity? id = none := by
    rw [identity?_of_get? hget]
    rfl
  refine ⟨hconsistent.opened sink hfresh, hswept.openSession sink hfresh, ?_, [],
    tells_of_journal_eq rfl, ?_⟩
  · rw [OnRecord, session?_of_get? hget]
    exact Option.some_ne_none _
  · rw [hidentity]
    exact .awaited

/-- A frame of the client keeps the connection going or brings it to its end. -/
theorem Upheld.handleFrame (h : Upheld .continue id origin broker) (setting : Setting)
    (frame : Frame) :
    Upheld (broker.handleFrame setting id frame).1 id origin
      (broker.handleFrame setting id frame).2 := by
  have hfresh : Operation.Fresh broker (.handleFrame id frame) := trivial
  obtain ⟨frames, htells, hongoing⟩ := h.told
  obtain ⟨more, hmore, hanswered⟩ := Ongoing.handleFrame hongoing h.consistent setting frame
  exact ⟨h.consistent.run hfresh, h.swept.run h.consistent setting hfresh, h.record.run hfresh,
    _, htells.trans hmore, hanswered⟩

theorem Upheld.reject (h : Upheld .continue id origin broker) (setting : Setting) (text : String)
    (detail : Option String) :
    Upheld .close id origin (broker.reject setting id text detail).2 := by
  have hacts : Acts setting (some id) broker (broker.reject setting id text detail).2 :=
    acts_reject text detail
  obtain ⟨frames, htells, hongoing⟩ := h.told
  obtain ⟨last, hlast, hmore⟩ := exists_tells_reject setting broker id text detail
  refine ⟨?_, h.swept.acts hacts, h.record.acts hacts, _, htells.trans hmore,
    Ongoing.fail hongoing hlast⟩
  unfold Broker.reject
  cases broker.registry.get? id with
  | none => exact h.consistent
  | some session => exact h.consistent.congr rfl rfl rfl

theorem Upheld.dispatch {frame : Frame} {version : Option Version}
    (h : Upheld .continue id origin broker)
    (hdispatch : Socket.dispatch setting id frame broker = (flow, version, after)) :
    Upheld flow id origin after := by
  have hhandled := h.handleFrame setting frame
  rcases hresult : broker.handleFrame setting id frame with ⟨answer, handled⟩
  rw [hresult] at hhandled
  rw [Socket.dispatch, hresult] at hdispatch
  simp only [Prod.mk.injEq] at hdispatch
  obtain ⟨rfl, -, rfl⟩ := hdispatch
  exact hhandled

theorem Upheld.heard (h : Upheld .continue id origin reading.broker)
    (hheard : Socket.Heard setting id reading frames middle) :
    Upheld .continue id origin middle.broker := by
  induction hheard with
  | refl => exact h
  | head _ hdispatch _ ih => exact ih (h.dispatch hdispatch)

theorem Upheld.halt {last : Reading} (h : Upheld .continue id origin reading.broker)
    (hhalt : Socket.Halt setting id reading handled flow last) :
    Upheld flow id origin last.broker := by
  cases hhalt with
  | more _ => exact h
  | invalid _ => exact h.reject setting _ _
  | close _ hdispatch => exact h.dispatch hdispatch

theorem Upheld.closeSession (h : Upheld flow id origin broker) :
    Upheld .close id origin (broker.closeSession id) := by
  obtain ⟨frames, htells, hanswered⟩ := h.told
  exact ⟨(h.consistent.loose id).closeSession, h.swept.closeSession id, h.record.closeSession id,
    frames, htells.silent (tells_closeSession id), hanswered.conversation⟩

/-- Wherever the reading half panics, closing the session makes up for it. -/
theorem Upheld.breaks {broken : Broker} (h : Upheld .continue socket.id origin broker)
    (hbreaks : socket.Breaks setting broker handled broken) :
    Upheld .close socket.id origin (broken.closeSession socket.id) := by
  cases hbreaks with
  | waiting => exact h.closeSession
  | timedOut _ => exact (h.reject setting _ _).closeSession
  | reading hheard => exact (h.heard hheard).closeSession
  | refused hheard _ => exact ((h.heard hheard).reject setting _ _).closeSession
  | @handling data rest frames middle frame _ hheard _ hbefore hbehind =>
    have hmiddle := h.heard hheard
    have hbooks := ((hmiddle.consistent.loose socket.id).acts hbefore).closeSession
    have hswept := (hmiddle.swept.acts hbefore).closeSession socket.id
    have hrecord := (hmiddle.record.acts hbefore).closeSession socket.id
    obtain ⟨frames, htells, hongoing⟩ := hmiddle.told
    obtain ⟨more, hmore, hanswered⟩ :=
      Ongoing.handleFrame hongoing hmiddle.consistent setting frame
    -- What was told until then is the beginning of what would have been told.
    obtain ⟨front, hfront, hwithin⟩ :=
      hmore.of_extends (extends_of_acts hbefore) (extends_of_acts hbehind)
    refine ⟨hbooks, hswept, hrecord, frames ++ front,
      (htells.trans hfront).silent (tells_closeSession socket.id), ?_⟩
    exact hanswered.conversation.of_isPrefix ((List.prefix_append_right_inj frames).mpr hwithin)

theorem Upheld.foreign {operation : Operation} (h : Upheld flow id origin broker)
    (hgone : flow = .close → broker.registry.get? id = none) (hfresh : operation.Fresh broker)
    (hforeign : operation.Foreign id) : Upheld flow id origin (broker.run setting operation) := by
  obtain ⟨frames, htells, hanswered⟩ := h.told
  refine ⟨h.consistent.run hfresh, h.swept.run h.consistent setting hfresh, h.record.run hfresh, ?_⟩
  cases flow with
  | «continue» =>
    obtain ⟨more, hmore, hongoing⟩ := Ongoing.foreign hanswered h.consistent hfresh hforeign
    exact ⟨_, htells.trans hmore, hongoing⟩
  | close =>
    obtain ⟨more, hmore, hmessages⟩ := exists_tells_foreign h.consistent setting hforeign
    cases more with
    | nil => exact ⟨frames, htells.silent hmore, hanswered⟩
    | cons message more =>
      obtain ⟨-, session, hlive, -⟩ := hmessages message List.mem_cons_self
      rw [hgone rfl] at hlive
      cases hlive

theorem identity?_ne_none_of_run {operation : Operation} (h : Consistent broker)
    (hfresh : operation.Fresh broker) (hidentity : broker.identity? id ≠ none) :
    (broker.run setting operation).identity? id ≠ none := by
  rcases identity?_run setting h hfresh id with hkept | ⟨_, _, _, -, hawaits, -, -⟩
  · exact hkept ▸ hidentity
  · exact absurd hawaits.identity?_eq_none hidentity

theorem Upheld.identity?_heard (h : Upheld .continue id origin reading.broker)
    (hheard : Socket.Heard setting id reading frames middle)
    (hidentity : reading.broker.identity? id ≠ none) : middle.broker.identity? id ≠ none := by
  induction hheard with
  | refl => exact hidentity
  | @head _ _ _ broker after frame _ _ _ _ hdispatch _ ih =>
    have hafter : after = (broker.handleFrame setting id frame).2 := by
      rw [Socket.dispatch, Prod.mk.injEq, Prod.mk.injEq] at hdispatch
      exact hdispatch.2.2.symm
    refine ih (h.dispatch hdispatch) ?_
    have hfresh : Operation.Fresh broker (.handleFrame id frame) := trivial
    rw [hafter]
    exact identity?_ne_none_of_run h.consistent hfresh hidentity

end Broker

/-! ### Arrivals -/

theorem mirrors_of_live {socket next : Socket} (hown : next.id = id)
    (hnext : next.authenticated = (socket.authenticated ||
      (broker.registry.get? id).elim false (·.authenticated)))
    (hknown : socket.authenticated = true → broker.identity? id ≠ none) :
    Mirrors id broker next := by
  refine ⟨hown, fun hauthenticated ↦ ?_, fun session hlive hauthenticated ↦ ?_⟩
  · rw [hnext, Bool.or_eq_true] at hauthenticated
    rcases hauthenticated with hbefore | hlive
    · exact hknown hbefore
    · cases hget : broker.registry.get? id with
      | none =>
        rw [hget] at hlive
        cases hlive
      | some session =>
        rw [hget, Option.elim_some] at hlive
        rw [identity?_of_get? hget, Session.identity?, if_pos hlive]
        exact Option.some_ne_none _
  · rw [hnext, hlive, Option.elim_some, hauthenticated, Bool.or_true]

/-- An arrival keeps the connection going or brings it to its end. -/
theorem Broker.Upheld.step {arrival : Arrival} {next : Socket}
    (h : Upheld .continue id origin broker)
    (hmirrors : Mirrors id broker socket) (hserves : socket.Serves setting broker arrival handled)
    (hstep : socket.step setting broker arrival = (flow, next, after)) :
    Upheld flow id origin after ∧ next.id = id ∧ Orderly handled flow ∧
      (flow = .continue → Mirrors id after next) := by
  obtain rfl := hmirrors.own
  cases hserves with
  | message hfits hheard hhalt =>
    rw [Socket.step_message hfits hheard hhalt] at hstep
    simp only [Prod.mk.injEq] at hstep
    obtain ⟨rfl, rfl, rfl⟩ := hstep
    refine ⟨(h.heard hheard).halt hhalt, rfl,
      (orderly_continued _).append (orderly_of_halt hhalt), fun hgoes ↦ ?_⟩
    subst hgoes
    cases hhalt with
    | more _ =>
      have hlasting := h.identity?_heard hheard
      exact mirrors_of_live rfl rfl fun hbefore ↦ hlasting (hmirrors.known hbefore)
  | other hoversized =>
    cases arrival with
    | message data =>
      rw [Socket.step, if_pos (hoversized data rfl)] at hstep
      cases hstep
      exact ⟨h.stopped, rfl, orderly_nil, fun hgoes ↦ by cases hgoes⟩
    | ping payload =>
      cases hstep
      have hrecorded : Upheld .continue socket.id origin
          (broker.record (.answered socket.id payload)) := by
        have hfresh : Operation.Fresh broker (.answerPing socket.id payload) := trivial
        obtain ⟨frames, htells, hongoing⟩ := h.told
        exact ⟨h.consistent.congr rfl rfl rfl, h.swept.run h.consistent setting hfresh,
          h.record.books rfl fun hnone ↦ hnone, frames, htells.silent ⟨_, rfl, rfl⟩, hongoing⟩
      exact ⟨hrecorded, rfl, orderly_nil, fun _ ↦ ⟨rfl, hmirrors.known, hmirrors.live⟩⟩
    | pong =>
      cases hstep
      exact ⟨h, rfl, orderly_nil, fun _ ↦ hmirrors⟩
    | ended =>
      cases hstep
      exact ⟨h.stopped, rfl, orderly_nil, fun hgoes ↦ by cases hgoes⟩
    | shutdown =>
      cases hstep
      exact ⟨h.stopped, rfl, orderly_nil, fun hgoes ↦ by cases hgoes⟩
    | deadline =>
      rw [Socket.step] at hstep
      split at hstep
      · cases hstep
        exact ⟨h, rfl, orderly_nil, fun _ ↦ hmirrors⟩
      · cases hstep
        exact ⟨h.reject setting _ _, rfl, orderly_nil, fun hgoes ↦ by cases hgoes⟩

/-! ### Runs -/

/-- Whether the connection goes on. -/
def Link.goes (link : Link) : Flow :=
  link.socket.elim .close fun _ ↦ .continue

/-- What holds of a connection in all its turns. -/
structure Lasting (id : SessionId) (origin : Broker) (link : Link) : Prop where
  upheld : Upheld link.goes id origin link.broker
  orderly : Orderly link.handled link.goes
  mirrors : ∀ socket, link.socket = some socket → Mirrors id link.broker socket
  removed : link.socket = none → link.broker.registry.get? id = none

theorem Lasting.serve {arrival : Arrival} {earlier : List Handled}
    (h : Lasting id origin ⟨some socket, broker, earlier⟩)
    (hserves : socket.Serves setting broker arrival handled) :
    Lasting id origin ⟨(socket.serve setting broker arrival).1,
      (socket.serve setting broker arrival).2, earlier ++ handled⟩ := by
  rcases hstep : socket.step setting broker arrival with ⟨flow, next, after⟩
  obtain ⟨hupheld, hown, horderly, hmirrors⟩ := h.upheld.step (h.mirrors socket rfl) hserves hstep
  have hall := h.orderly.append horderly
  rw [Socket.serve, hstep]
  cases flow with
  | «continue» =>
    refine ⟨hupheld, hall, fun other hother ↦ ?_, fun hended ↦ by cases hended⟩
    cases hother
    exact hmirrors rfl
  | close =>
    subst hown
    exact ⟨hupheld.closeSession, hall, fun other hother ↦ (by cases hother),
      fun _ ↦ (get?_closeSession after next.id).trans (if_pos rfl)⟩

theorem Lasting.turn {link later : Link} (h : Lasting id origin link)
    (hturn : Turn id link later) : Lasting id origin later := by
  cases hturn with
  | arrived hserves => exact h.serve hserves
  | @others setting socket broker operation handled hfresh hforeign =>
    have hkept : ∀ session, (broker.run setting operation).registry.get? id = some session →
        broker.registry.get? id = some session :=
      fun session hlive ↦ get?_of_foreign hfresh hforeign h.upheld.record hlive
    refine ⟨h.upheld.foreign (fun hended ↦ h.removed ?_) hfresh hforeign, h.orderly,
      fun reading hreading ↦ ?_, fun hended ↦ ?_⟩
    · cases socket with
      | none => rfl
      | some socket => cases hended
    · obtain ⟨hown, hknown, hlive⟩ := h.mirrors reading hreading
      refine ⟨hown, fun hauthenticated ↦ ?_,
        fun session hsession ↦ hlive session (hkept _ hsession)⟩
      exact identity?_ne_none_of_run h.upheld.consistent hfresh (hknown hauthenticated)
    · cases hget : (broker.run setting operation).registry.get? id with
      | none => rfl
      | some session =>
        have hgone := h.removed hended
        rw [hkept session hget] at hgone
        cases hgone
  | @panicked setting socket broker broken earlier handled hbreaks =>
    obtain rfl := (h.mirrors socket rfl).own
    exact ⟨h.upheld.breaks hbreaks, h.orderly.append (orderly_of_breaks hbreaks),
      fun other hother ↦ (by cases hother),
      fun _ ↦ (get?_closeSession broken socket.id).trans (if_pos rfl)⟩

theorem Lasting.turns {link later : Link} (h : Lasting id origin link)
    (hturns : Turns id link later) : Lasting id origin later := by
  induction hturns with
  | refl => exact h
  | tail _ hturn ih => exact ih.turn hturn

theorem Lasting.opened (hconsistent : Consistent origin) (hswept : Swept origin)
    (hfresh : origin.session? id = none) (setting : Setting) (sink : Sink) (maxFrameBytes : Nat) :
    Lasting id origin (.opened setting origin id sink maxFrameBytes) := by
  have hget : (origin.openSession setting id sink).registry.get? id =
      some { id, connectTime := setting.clock.millis } := Registry.get?_add.trans (if_pos rfl)
  refine ⟨.opened hconsistent hswept hfresh setting sink, orderly_nil, fun socket hsocket ↦ ?_,
    fun hended ↦ by cases hended⟩
  cases hsocket
  refine ⟨rfl, fun hauthenticated ↦ (by cases hauthenticated),
    fun session hlive hauthenticated ↦ ?_⟩
  change (origin.openSession setting id sink).registry.get? id = some session at hlive
  obtain rfl : _ = session := Option.some.inj (hget.symm.trans hlive)
  cases hauthenticated

/-! ### What a connection owes -/

/-- The arrivals at which a connection ends. -/
inductive Stops (setting : Setting) (socket : Socket) (broker : Broker) : Arrival → Prop
  /-- The client said that it ends, or was cut off. -/
  | ended : Stops setting socket broker .ended
  | shutdown : Stops setting socket broker .shutdown
  /-- A message too long to be read. -/
  | oversized {data : Bytes} :
    socket.codec.maxFrameBytes < data.length → Stops setting socket broker (.message data)
  /-- A frame that was answered with Close, or what is no frame. -/
  | closed {data : Bytes} {frames : List Frame} {middle last : Reading} {handled : List Handled} :
    data.length ≤ socket.codec.maxFrameBytes →
      Socket.Heard setting socket.id ⟨socket.codec, socket.buffer ++ data, broker⟩ frames middle →
        Socket.Halt setting socket.id middle handled .close last →
          Stops setting socket broker (.message data)
  /-- The client never connected. -/
  | unanswered : broker.identity? socket.id = none → Stops setting socket broker .deadline
  /-- The shutdown has come before: the session was told to stop, and the reading half had not seen
  its handshake yet. -/
  | cancelled {session : Session} :
    broker.session? socket.id = some session → session.cancelled = true →
      socket.authenticated = false → Stops setting socket broker .deadline

/-- A session that is on record and not live has left, and was told to stop. -/
theorem Broker.Upheld.exists_departed (h : Upheld flow id origin broker)
    (hremoved : broker.registry.get? id = none) :
    ∃ session ∈ broker.departed, broker.session? id = some session ∧ session.id = id ∧
      session.cancelled = true := by
  obtain ⟨session, hsession⟩ := Option.ne_none_iff_exists'.mp h.record
  have hfound := hsession
  rw [session?_eq_or, hremoved, Option.none_or] at hfound
  have hmem := List.mem_of_find?_eq_some hfound
  exact ⟨session, hmem, hsession, by simpa using List.find?_some hfound,
    h.swept.cancelled session hmem⟩

theorem Broker.Upheld.serve_eq_none_iff (hupheld : Upheld .continue id origin broker)
    (h : Mirrors id broker socket) (arrival : Arrival) :
    (socket.serve setting broker arrival).1 = none ↔ Stops setting socket broker arrival := by
  obtain rfl := h.own
  have hserve : (socket.serve setting broker arrival).1 = none ↔
      (socket.step setting broker arrival).1 = .close := by
    rw [Socket.serve]
    rcases socket.step setting broker arrival with ⟨flow, next, after⟩
    cases flow with
    | «continue» => simp
    | close => simp
  rw [hserve]
  cases arrival with
  | message data =>
    by_cases hfits : data.length ≤ socket.codec.maxFrameBytes
    · obtain ⟨frames, middle, handled, flow, last, hheard, hhalt⟩ := Socket.exists_heard_halt
        setting socket.id ⟨socket.codec, socket.buffer ++ data, broker⟩
      have hstep := Socket.step_message hfits hheard hhalt
      rw [hstep]
      constructor
      · rintro rfl
        exact .closed hfits hheard hhalt
      · intro hstops
        cases hstops with
        | oversized hlt => exact absurd hfits (Nat.not_le.mpr hlt)
        | closed _ hheard' hhalt' =>
          have hboth := hstep.symm.trans (Socket.step_message hfits hheard' hhalt')
          exact congrArg Prod.fst hboth
    · have hlt := Nat.lt_of_not_le hfits
      rw [Socket.step, if_pos hlt]
      exact ⟨fun _ ↦ .oversized hlt, fun _ ↦ rfl⟩
  | ping payload => exact ⟨fun hflow ↦ (by cases hflow), fun hstops ↦ by cases hstops⟩
  | pong => exact ⟨fun hflow ↦ (by cases hflow), fun hstops ↦ by cases hstops⟩
  | ended => exact ⟨fun _ ↦ .ended, fun _ ↦ rfl⟩
  | shutdown => exact ⟨fun _ ↦ .shutdown, fun _ ↦ rfl⟩
  | deadline =>
    rw [Socket.step]
    cases hauthenticated : socket.authenticated with
    | true =>
      refine ⟨fun hflow ↦ (by cases hflow), fun hstops ↦ ?_⟩
      cases hstops with
      | unanswered hunknown => exact absurd hunknown (h.known hauthenticated)
      | cancelled _ _ hunseen =>
        rw [hauthenticated] at hunseen
        cases hunseen
    | false =>
      refine ⟨fun _ ↦ ?_, fun _ ↦ rfl⟩
      cases hget : broker.registry.get? socket.id with
      | none =>
        obtain ⟨session, -, hsession, -, hcancelled⟩ := hupheld.exists_departed hget
        exact .cancelled hsession hcancelled hauthenticated
      | some session =>
        refine .unanswered ?_
        rw [identity?_of_get? hget, Session.identity?, if_neg]
        intro hknown
        have hmirror := h.live session hget hknown
        rw [hauthenticated] at hmirror
        cases hmirror

/-- A session is in no book of the broker, and its connection was closed; if a write to it had
failed, whoever took it out may have left that to `closeLeft`. -/
structure Broker.Gone (broker : Broker) (id : SessionId) : Prop where
  removed : broker.registry.get? id = none
  unlisted : ∀ username, ¬broker.registry.Listed username id
  withdrawn : ∀ key subscription, (key, ⟨id, subscription⟩) ∉ broker.table.entries
  closed : broker.Closed id ∨ id ∈ broker.closing ∧ broker.Unreached id
  swept : broker.closeLeft.Closed id

theorem Broker.Upheld.gone (h : Upheld flow id origin broker)
    (hremoved : broker.registry.get? id = none) : broker.Gone id := by
  obtain ⟨session, hmem, -, rfl, -⟩ := h.exists_departed hremoved
  obtain ⟨-, hunlisted, hwithdrawn⟩ := h.consistent.absent hremoved
  refine ⟨hremoved, hunlisted, hwithdrawn, ?_, h.swept.closed_closeLeft hmem⟩
  exact (h.swept.departed session hmem).imp_right fun hwaits ↦ ⟨hwaits, h.swept.closing _ hwaits⟩

/-- A connection ends when it should, tells its client a conversation, dispatches nothing behind a
frame that ends it, and leaves nothing behind. -/
structure Conducted (id : SessionId) (origin : Broker) (link : Link) : Prop where
  stops_iff : ∀ socket, link.socket = some socket → ∀ setting arrival,
    (socket.serve setting link.broker arrival).1 = none ↔
      Stops setting socket link.broker arrival
  /-- The deadline does nothing to a live session that has connected. -/
  patient : ∀ socket, link.socket = some socket →
    link.broker.registry.get? id ≠ none → link.broker.identity? id ≠ none →
      ∀ setting, socket.serve setting link.broker .deadline =
        (some socket, link.broker)
  /-- Behind a frame that was not answered with Continue no other is dispatched, not even later. -/
  last : ∀ front entry back, link.handled = front ++ entry :: back →
    entry.answer ≠ some .continue → back = [] ∧ link.socket = none
  told : ∃ frames, Tells origin link.broker id frames ∧ Conversation frames
  gone : link.socket = none → link.broker.Gone id

theorem Orderly.last (h : Orderly handled flow) {front back : List Handled} {entry : Handled}
    (hsplit : handled = front ++ entry :: back) (hanswer : entry.answer ≠ some .continue) :
    back = [] ∧ flow = .close := by
  subst hsplit
  cases flow with
  | «continue» =>
    exact absurd (h entry (List.mem_append_right front List.mem_cons_self)) hanswer
  | close =>
    refine ⟨?_, rfl⟩
    cases back with
    | nil => rfl
    | cons next back =>
      refine absurd (h entry ?_) hanswer
      rw [List.dropLast_append_of_ne_nil (List.cons_ne_nil entry _), List.dropLast_cons_cons]
      exact List.mem_append_right front List.mem_cons_self

theorem Lasting.conducted {link : Link} (h : Lasting id origin link) :
    Conducted id origin link := by
  constructor
  · intro socket hsocket setting arrival
    have hupheld := h.upheld
    rw [Link.goes, hsocket] at hupheld
    exact hupheld.serve_eq_none_iff (h.mirrors socket hsocket) arrival
  · intro socket hsocket hlive hidentity setting
    obtain ⟨session, hsession⟩ := Option.ne_none_iff_exists'.mp hlive
    have hknown : session.authenticated = true := by
      by_contra hnew
      rw [identity?_of_get? hsession, Session.identity?, if_neg hnew] at hidentity
      exact hidentity rfl
    rw [Socket.serve, Socket.step, if_pos ((h.mirrors socket hsocket).live session hsession hknown)]
  · intro front entry back hsplit hanswer
    obtain ⟨hback, hgoes⟩ := h.orderly.last hsplit hanswer
    refine ⟨hback, ?_⟩
    cases hsocket : link.socket with
    | none => rfl
    | some socket =>
      rw [Link.goes, hsocket] at hgoes
      cases hgoes
  · obtain ⟨frames, htells, hanswered⟩ := h.upheld.told
    exact ⟨frames, htells, hanswered.conversation⟩
  · intro hended
    exact h.upheld.gone (h.removed hended)

/-- Whatever the broker was asked for before, whatever arrives, whatever others do in between, and
wherever the reading half panics, a connection is conducted. -/
theorem conducted_of_turns {allowed : Setting → Broker → Operation → Prop}
    (h : Reachable allowed origin) (hfresh : origin.session? id = none) {sink : Sink}
    {maxFrameBytes : Nat} {link : Link}
    (hturns : Turns id (.opened setting origin id sink maxFrameBytes) link) :
    Conducted id origin link :=
  ((Lasting.opened h.consistent (swept_of_reachable h) hfresh setting sink maxFrameBytes).turns
    hturns).conducted

end StompBroker

/-! ### A client that connects and leaves -/

namespace StompBroker

open Broker

namespace Farewell

def frame : Frame := Forgery.connect Forgery.token "1.0"

/-- The client's one message. -/
def data : Bytes := Codec.encode .v12 frame

def start : Link := .opened Forgery.setting {} Forgery.receiver {} data.length

/-- The reading half once the client has connected. -/
def socket : Socket where
  id := Forgery.receiver
  codec := ⟨.v10, data.length⟩
  authenticated := true

def finish : Link :=
  ⟨none, Forgery.connected.closeSession Forgery.receiver, [⟨frame, some .continue⟩]⟩

theorem decode_data : Codec.decode ⟨.v12, data.length⟩ data = .frame frame [] := by
  have hplain : ∀ header ∈ frame.headers, Codec.PlainHeader header := by
    intro header hmem
    simp only [frame, Forgery.connect, List.mem_cons, List.not_mem_nil, or_false] at hmem
    rcases hmem with rfl | rfl
    · exact ⟨by decide, by decide, by decide, by decide⟩
    · exact ⟨by decide, by decide, Forgery.plainValue_token.1, Forgery.plainValue_token.2⟩
  have hspelled := @Codec.spelled_encode_append ⟨.v12, data.length⟩ frame
    (.terminated rfl (by simp [frame, Forgery.connect])) (fun _ ↦ hplain) []
  have hskip : Codec.skipLineEnds data = data := by
    have happend := Codec.skipLineEnds_encode_append .v12 frame []
    rwa [List.append_nil] at happend
  rw [List.append_nil] at hspelled
  refine Codec.decode_eq_frame_iff.mpr ⟨?_, ?_⟩
  · rw [hskip]
    exact Codec.readFrame_eq_complete_iff.mpr ⟨hspelled, fun hne ↦ absurd rfl hne⟩
  · rw [hskip]
    exact Nat.sub_le _ _

theorem handleFrame_frame :
    start.broker.handleFrame Forgery.setting Forgery.receiver frame =
      (.continue, Forgery.connected) := by
  have hversion : Version.negotiate (frame.header? Header.acceptVersion) = some .v10 := by
    with_unfolding_all rfl
  have htoken : connectToken? frame = some Forgery.token :=
    Forgery.connectToken?_connect (WebToken.isEmpty_sign _ _) "1.0"
  have henrol : start.broker.enrol (Forgery.fresh Forgery.receiver) Forgery.claims.username .v10 =
      .ok { Forgery.connected with sinks := [(Forgery.receiver, {})], journal := [] } := rfl
  have hconnect := handleConnect_of_parse hversion htoken Forgery.parse_token henrol
  have hlive : start.broker.registry.get? Forgery.receiver =
      some (Forgery.fresh Forgery.receiver) := rfl
  have hserver : frame.command.isServerCommand = false := rfl
  have hfamily : frame.command.isConnectFamily = true := rfl
  have hnew : (Forgery.fresh Forgery.receiver).authenticated = false := rfl
  have hhandle : start.broker.handleFrame Forgery.setting Forgery.receiver frame =
      start.broker.handleConnect Forgery.setting (Forgery.fresh Forgery.receiver) frame := by
    rw [handleFrame, hlive]
    simp only [hserver, hfamily, hnew, Bool.false_eq_true, if_false, if_true]
  rw [hhandle, hconnect]
  rfl

theorem turns : Turns Forgery.receiver start finish := by
  have hdispatch : Socket.dispatch Forgery.setting Forgery.receiver frame start.broker =
      (.continue, some .v10, Forgery.connected) := by
    rw [Socket.dispatch, handleFrame_frame]
    rfl
  have hheard : Socket.Heard Forgery.setting Forgery.receiver
      ⟨⟨.v12, data.length⟩, data, start.broker⟩ [frame]
      ⟨⟨.v10, data.length⟩, [], Forgery.connected⟩ := .head decode_data hdispatch .refl
  have hhalt : Socket.Halt Forgery.setting Forgery.receiver
      ⟨⟨.v10, data.length⟩, [], Forgery.connected⟩ [] .continue
      ⟨⟨.v10, data.length⟩, [], Forgery.connected⟩ := .more rfl
  have hserve : (Socket.fresh Forgery.receiver data.length).serve Forgery.setting start.broker
      (.message data) = (some socket, Forgery.connected) := by
    rw [Socket.serve, Socket.step_message (Nat.le_refl _) hheard hhalt]
    rfl
  have hconnected : Turn Forgery.receiver start
      ⟨some socket, Forgery.connected, [⟨frame, some .continue⟩]⟩ := by
    have hserves : (Socket.fresh Forgery.receiver data.length).Serves Forgery.setting start.broker
        (.message data) (Socket.continued [frame] ++ []) := .message (Nat.le_refl _) hheard hhalt
    have hturn : Turn Forgery.receiver
        ⟨some (.fresh Forgery.receiver data.length), start.broker, []⟩ ⟨_, _, _⟩ :=
      .arrived hserves
    rw [hserve] at hturn
    exact hturn
  have hended : Turn Forgery.receiver
      ⟨some socket, Forgery.connected, [⟨frame, some .continue⟩]⟩ finish := by
    have hserves : socket.Serves Forgery.setting Forgery.connected .ended [] :=
      .other fun _ heq ↦ by cases heq
    exact .arrived hserves
  exact .tail (.single hconnected) hended

end Farewell

/-- The client is told CONNECTED, and its session is gone once it has left. -/
theorem conducted_of_turns_farewell :
    Reachable FromWire {} ∧ Broker.session? {} Forgery.receiver = none ∧
      Turns Forgery.receiver Farewell.start Farewell.finish ∧
      Conducted Forgery.receiver {} Farewell.finish ∧
      Tells {} Farewell.finish.broker Forgery.receiver [.connected .v10 "r"] ∧
      Farewell.finish.broker.Gone Forgery.receiver := by
  have hreachable : Reachable FromWire {} := .start
  have hconducted : Conducted Forgery.receiver {} Farewell.finish :=
    conducted_of_turns hreachable rfl Farewell.turns
  exact ⟨hreachable, rfl, Farewell.turns, hconducted, ⟨_, rfl, rfl⟩, hconducted.gone rfl⟩

end StompBroker
