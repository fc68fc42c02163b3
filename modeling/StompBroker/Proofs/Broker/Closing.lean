import StompBroker.Proofs.Broker.Act

/-!
# Sessions that leave

A session leaves the registry and the table at once, and its connection is closed by whoever took it
out: `closeSession` does so itself, and a delivery leaves it to `closeLeft`. `Swept` says that this
is never forgotten: a session that has left was told to stop, and its connection was closed, or
waits for `closeLeft` because a write to it failed. Every deed keeps that, and so do all operations
(`swept_of_reachable`), and behind `closeLeft` no connection waits (`Swept.closed_closeLeft`).

Acts that break off in the middle leave the books of their client `Loose`. Taking that client's
session out makes them agree again (`Loose.closeSession`).
-/

set_option autoImplicit false

namespace StompBroker

theorem Sink.write_kept (sink : Sink) (freeAt deadline : Nat) :
    (sink.write freeAt deadline).2.2.ending = sink.ending ∧
      (sink.write freeAt deadline).2.2.closed = sink.closed := by
  unfold write
  split
  · exact ⟨rfl, rfl⟩
  simp only
  split
  · exact ⟨rfl, rfl⟩
  · exact ⟨rfl, rfl⟩
  split
  · exact ⟨rfl, rfl⟩
  split <;> exact ⟨rfl, rfl⟩

namespace Broker

variable {setting : Setting} {operation : Operation} {client : Option SessionId}
  {broker after : Broker} {id other : SessionId} {session : Session}

/-! ### Connections that were closed -/

/-- The connection was closed, so far as its sink lets itself be closed. -/
structure Closed (broker : Broker) (id : SessionId) : Prop where
  attempted : ∃ seen, .closed id seen ∈ broker.journal
  done : (broker.sink id).ending = .closes → (broker.sink id).closed = true

theorem Closed.congr (h : broker.Closed id) (hextends : Extends broker after)
    (hending : (after.sink id).ending = (broker.sink id).ending)
    (hclosed : (after.sink id).closed = (broker.sink id).closed) : after.Closed id := by
  obtain ⟨events, hevents⟩ := hextends
  obtain ⟨seen, hmem⟩ := h.attempted
  refine ⟨⟨seen, hevents ▸ List.mem_append_left events hmem⟩, ?_⟩
  rw [hending, hclosed]
  exact h.done

theorem Closed.books (h : broker.Closed id) (hsinks : after.sinks = broker.sinks)
    (hjournal : after.journal = broker.journal) : after.Closed id := by
  have hsink : after.sink id = broker.sink id := by
    unfold Broker.sink
    rw [hsinks]
  exact h.congr ⟨[], by rw [hjournal, List.append_nil]⟩ (by rw [hsink]) (by rw [hsink])

theorem Closed.write (h : broker.Closed id) (version : Version) (frame : Frame)
    (freeAt deadline : Nat) :
    (broker.write other version frame freeAt deadline).2.2.Closed id := by
  have hsink : (broker.write other version frame freeAt deadline).2.2.sink id =
      if other = id then ((broker.sink other).write freeAt deadline).2.2 else broker.sink id :=
    sink_setSink
  obtain ⟨hending, hclosed⟩ := (broker.sink other).write_kept freeAt deadline
  refine h.congr ⟨_, journal_write⟩ ?_ ?_
  · rw [hsink]
    split
    · rename_i hid
      rw [hending, hid]
    · rfl
  · rw [hsink]
    split
    · rename_i hid
      rw [hclosed, hid]
    · rfl

theorem closed_closeSink (broker : Broker) (id : SessionId) : (broker.closeSink id).Closed id := by
  have hsink : (broker.closeSink id).sink id = (broker.sink id).close.2 :=
    sink_setSink.trans (if_pos rfl)
  refine ⟨⟨(broker.sink id).close.1, List.mem_append_right _ List.mem_cons_self⟩, ?_⟩
  rw [hsink, Sink.close]
  cases hending : (broker.sink id).ending with
  | closes => exact fun _ ↦ rfl
  | refuses => simp [hending]
  | stalls => simp [hending]

theorem Closed.closeSink (h : broker.Closed id) (other : SessionId) :
    (broker.closeSink other).Closed id := by
  by_cases hid : other = id
  · rw [hid]
    exact closed_closeSink broker id
  · have hsink : (broker.closeSink other).sink id = broker.sink id :=
      sink_setSink.trans (if_neg hid)
    exact h.congr ⟨_, rfl⟩ (by rw [hsink]) (by rw [hsink])

theorem closed_foldl_closeSink {ids : List SessionId} (h : id ∈ ids ∨ broker.Closed id) :
    (ids.foldl closeSink broker).Closed id := by
  induction ids generalizing broker with
  | nil =>
    rcases h with hmem | hclosed
    · cases hmem
    · exact hclosed
  | cons other ids ih =>
    refine ih ?_
    rcases h with hmem | hclosed
    · rcases List.mem_cons.mp hmem with rfl | hmem
      · exact .inr (closed_closeSink broker id)
      · exact .inl hmem
    · exact .inr (hclosed.closeSink other)

/-! ### Connections that wait -/

/-- A session that has left was told to stop, and its connection was closed, or waits because a
write failed. -/
structure Swept (broker : Broker) : Prop where
  cancelled : ∀ session ∈ broker.departed, session.cancelled = true
  departed : ∀ session ∈ broker.departed, broker.Closed session.id ∨ session.id ∈ broker.closing
  closing : ∀ id ∈ broker.closing, broker.Unreached id

theorem swept_empty : Swept {} :=
  ⟨by simp, by simp, by simp⟩

theorem Swept.congr (h : Swept broker) (hdeparted : after.departed = broker.departed)
    (hclosing : after.closing = broker.closing) (hextends : Extends broker after)
    (hclosed : ∀ session ∈ broker.departed, broker.Closed session.id → after.Closed session.id) :
    Swept after := by
  constructor
  · rw [hdeparted]
    exact h.cancelled
  · intro session hmem
    rw [hdeparted] at hmem
    rw [hclosing]
    exact (h.departed session hmem).imp_left (hclosed session hmem)
  · intro id hmem
    rw [hclosing] at hmem
    exact (h.closing id hmem).extends hextends

/-- Only the sinks, the journal and the records of those who have left matter. -/
theorem Swept.books (h : Swept broker) (hdeparted : after.departed = broker.departed)
    (hclosing : after.closing = broker.closing) (hsinks : after.sinks = broker.sinks)
    (hjournal : after.journal = broker.journal) : Swept after := by
  exact h.congr hdeparted hclosing ⟨[], by rw [hjournal, List.append_nil]⟩ fun _ _ hclosed ↦
    hclosed.books hsinks hjournal

theorem Swept.write (h : Swept broker) (version : Version) (frame : Frame)
    (freeAt deadline : Nat) : Swept (broker.write id version frame freeAt deadline).2.2 :=
  h.congr rfl rfl ⟨_, journal_write⟩ fun _ _ hclosed ↦ hclosed.write version frame freeAt deadline

theorem Swept.retire (h : Swept broker) (hunreached : broker.Unreached id) :
    Swept (broker.retire id) := by
  unfold Broker.retire
  cases hlive : broker.registry.get? id with
  | none =>
    rw [detach_of_none hlive]
    exact h
  | some session =>
    have hid := Registry.id_of_get? hlive
    rw [detach_of_some hlive]
    constructor
    · intro departed hmem
      rcases List.mem_append.mp hmem with hmem | hmem
      · exact h.cancelled departed hmem
      · obtain rfl := List.mem_singleton.mp hmem
        rfl
    · intro departed hmem
      rcases List.mem_append.mp hmem with hmem | hmem
      · rcases h.departed departed hmem with hclosed | hwaits
        · exact .inl (hclosed.books rfl rfl)
        · exact .inr (List.mem_append_left _ hwaits)
      · obtain rfl := List.mem_singleton.mp hmem
        exact .inr (List.mem_append_right _ (List.mem_singleton.mpr hid))
    · intro waiting hmem
      rcases List.mem_append.mp hmem with hmem | hmem
      · exact (h.closing waiting hmem).extends ⟨[], (List.append_nil _).symm⟩
      · obtain rfl := List.mem_singleton.mp hmem
        exact hunreached.extends ⟨[], (List.append_nil _).symm⟩

theorem Swept.act (h : Swept broker) (hact : Act setting client broker after) : Swept after := by
  cases hact with
  | named _ _ _ _ _ => exact h.books rfl rfl rfl rfl
  | bound _ _ _ _ => exact h.books rfl rfl rfl rfl
  | noted _ _ _ => exact h.books rfl rfl rfl rfl
  | entered _ _ _ _ => exact h.books rfl rfl rfl rfl
  | dropped _ _ _ => exact h.books rfl rfl rfl rfl
  | removed _ _ _ => exact h.books rfl rfl rfl rfl
  | @replied session frame _ =>
    change Swept (broker.write session.id session.version frame 0 setting.writeTimeout).2.2
    exact h.write _ _ _ _
  | delivered freeAt _ _ _ =>
    have hcounted : Swept { broker with nextMessageId := broker.nextMessageId + 1 } :=
      h.books rfl rfl rfl rfl
    exact hcounted.write _ _ _ _
  | retired hunreached => exact h.retire hunreached

theorem Swept.acts (h : Swept broker) (hacts : Acts setting client broker after) :
    Swept after := by
  induction hacts with
  | refl => exact h
  | tail _ hact ih => exact ih.act hact

/-- A session that is closed is swept away itself. -/
theorem Swept.closeSession (h : Swept broker) (id : SessionId) :
    Swept (broker.closeSession id) := by
  unfold Broker.closeSession
  cases hlive : broker.registry.get? id with
  | none =>
    rw [detach_of_none hlive]
    exact h
  | some session =>
    have hid := Registry.id_of_get? hlive
    rw [detach_of_some hlive]
    simp only
    constructor
    · intro departed hmem
      rcases List.mem_append.mp hmem with hmem | hmem
      · exact h.cancelled departed hmem
      · obtain rfl := List.mem_singleton.mp hmem
        rfl
    · intro departed hmem
      rcases List.mem_append.mp hmem with hmem | hmem
      · rcases h.departed departed hmem with hclosed | hwaits
        · refine .inl (Closed.closeSink ?_ id)
          exact hclosed.books rfl rfl
        · exact .inr hwaits
      · obtain rfl := List.mem_singleton.mp hmem
        simp only [hid]
        exact .inl (closed_closeSink _ id)
    · intro waiting hmem
      exact (h.closing waiting hmem).extends ⟨_, rfl⟩

theorem Swept.openSession (h : Swept broker) (sink : Sink) (hfresh : broker.session? id = none) :
    Swept (broker.openSession setting id sink) := by
  have hextends : Extends broker (broker.openSession setting id sink) :=
    ⟨[], (List.append_nil _).symm⟩
  refine h.congr rfl rfl hextends fun session hmem hclosed ↦ ?_
  have hne : id ≠ session.id := ((session?_eq_none_iff.mp hfresh).2 session hmem).symm
  have hsink : (broker.openSession setting id sink).sink session.id = broker.sink session.id :=
    sink_setSink.trans (if_neg hne)
  exact hclosed.congr hextends (by rw [hsink]) (by rw [hsink])

theorem departed_foldl_closeSink (broker : Broker) (ids : List SessionId) :
    (ids.foldl closeSink broker).departed = broker.departed ∧
      (ids.foldl closeSink broker).closing = broker.closing := by
  induction ids generalizing broker with
  | nil => exact ⟨rfl, rfl⟩
  | cons id ids ih => exact ih (broker.closeSink id)

/-- Behind `closeLeft` the connections of all who have left were closed. -/
theorem Swept.closed_closeLeft (h : Swept broker) (hmem : session ∈ broker.departed) :
    broker.closeLeft.Closed session.id := by
  refine closed_foldl_closeSink ?_
  rcases h.departed session hmem with hclosed | hwaits
  · exact .inr (hclosed.books rfl rfl)
  · exact .inl hwaits

theorem Swept.closeLeft (h : Swept broker) : Swept broker.closeLeft := by
  obtain ⟨hdeparted, hclosing⟩ :=
    departed_foldl_closeSink { broker with closing := [] } broker.closing
  constructor
  · intro session hmem
    exact h.cancelled session (hdeparted ▸ hmem)
  · intro session hmem
    exact .inl (h.closed_closeLeft (hdeparted ▸ hmem))
  · intro id hmem
    have hnone : broker.closeLeft.closing = [] := hclosing
    rw [hnone] at hmem
    cases hmem

theorem Swept.deed (h : Swept broker) (hdeed : Deed broker after) : Swept after := by
  cases hdeed with
  | acted hact => exact h.act hact
  | opened hfresh => exact h.openSession _ hfresh
  | answered id payload =>
    have hextends : Extends broker (broker.record (.answered id payload)) := ⟨_, rfl⟩
    exact h.congr rfl rfl hextends fun _ _ hclosed ↦ hclosed.congr hextends rfl rfl
  | closed id => exact h.closeSession id
  | swept => exact h.closeLeft

/-- No operation forgets a connection. -/
theorem Swept.run (h : Swept broker) (hconsistent : Consistent broker) (setting : Setting)
    (hfresh : operation.Fresh broker) : Swept (broker.run setting operation) := by
  have hdeeds := hconsistent.deeds_run setting hfresh
  generalize broker.run setting operation = after at hdeeds ⊢
  induction hdeeds with
  | refl => exact h
  | tail _ hdeed ih => exact ih.deed hdeed

/-- Whatever was asked of the broker and whatever its sinks did, no connection is forgotten. -/
theorem swept_of_reachable {allowed : Setting → Broker → Operation → Prop}
    (h : Reachable allowed broker) : Swept broker := by
  induction h with
  | start => exact swept_empty
  | step h hfresh _ ih => exact ih.run h.consistent _ hfresh

/-! ### Records that stay -/

/-- Whoever takes a session out, the books change as in `detach`. -/
theorem books_retire (broker : Broker) (id : SessionId) :
    (broker.retire id).registry = (broker.detach id).2.registry ∧
      (broker.retire id).table = (broker.detach id).2.table ∧
        (broker.retire id).departed = (broker.detach id).2.departed := by
  unfold retire
  rcases broker.detach id with ⟨live, detached⟩
  cases live with
  | false => exact ⟨rfl, rfl, rfl⟩
  | true => exact ⟨rfl, rfl, rfl⟩

theorem books_closeSession (broker : Broker) (id : SessionId) :
    (broker.closeSession id).registry = (broker.detach id).2.registry ∧
      (broker.closeSession id).table = (broker.detach id).2.table ∧
        (broker.closeSession id).departed = (broker.detach id).2.departed := by
  unfold closeSession
  rcases broker.detach id with ⟨live, detached⟩
  cases live with
  | false => exact ⟨rfl, rfl, rfl⟩
  | true => exact ⟨rfl, rfl, rfl⟩

/-- The session was opened once. -/
def OnRecord (broker : Broker) (id : SessionId) : Prop := broker.session? id ≠ none

theorem OnRecord.books (h : broker.OnRecord id) (hdeparted : after.departed = broker.departed)
    (hlive : after.registry.get? id = none → broker.registry.get? id = none) :
    after.OnRecord id := by
  intro hnone
  obtain ⟨hgone, hothers⟩ := session?_eq_none_iff.mp hnone
  exact h (session?_eq_none_iff.mpr ⟨hlive hgone, hdeparted ▸ hothers⟩)

theorem get?_eq_none_of_update {registry : Registry} {change : Session → Session}
    (hchange : ∀ kept : Session, kept.id = other → (change kept).id = other)
    (h : (registry.update other change).get? id = none) : registry.get? id = none :=
  (Registry.get?_update_eq_none_iff hchange).mp h

theorem OnRecord.detached (h : broker.OnRecord id) (other : SessionId) :
    (broker.detach other).2.OnRecord id := by
  by_cases hid : other = id
  · subst hid
    cases hlive : broker.registry.get? other with
    | none =>
      rw [detach_of_none hlive]
      exact h
    | some session =>
      rw [detach_of_some hlive]
      intro hnone
      have hid : session.id = other := Registry.id_of_get? hlive
      exact (session?_eq_none_iff.mp hnone).2 _ (List.mem_append_right _ List.mem_cons_self) hid
  · intro hnone
    exact h ((session?_detach_of_ne hid).symm.trans hnone)

theorem OnRecord.act (h : broker.OnRecord id) (hact : Act setting client broker after) :
    after.OnRecord id := by
  cases hact with
  | named _ _ _ _ _ => exact h.books rfl (get?_eq_none_of_update fun _ heq ↦ heq)
  | bound _ _ _ hbind =>
    exact h.books rfl fun hnone ↦ (Registry.get?_of_bind hbind).symm.trans hnone
  | noted _ _ hsubscribe =>
    obtain ⟨-, rfl⟩ := Session.subscribe?_eq_some_iff.mp hsubscribe
    exact h.books rfl (get?_eq_none_of_update fun _ _ ↦ rfl)
  | entered _ _ _ _ => exact h.books rfl fun hnone ↦ hnone
  | dropped _ _ _ => exact h.books rfl (get?_eq_none_of_update fun _ heq ↦ heq)
  | removed _ _ _ => exact h.books rfl fun hnone ↦ hnone
  | replied _ _ => exact h.books rfl fun hnone ↦ hnone
  | delivered _ _ _ _ => exact h.books rfl fun hnone ↦ hnone
  | @retired other _ =>
    obtain ⟨hregistry, -, hdeparted⟩ := books_retire broker other
    exact (h.detached other).books hdeparted fun hnone ↦ hregistry ▸ hnone

theorem OnRecord.acts (h : broker.OnRecord id) (hacts : Acts setting client broker after) :
    after.OnRecord id := by
  induction hacts with
  | refl => exact h
  | tail _ hact ih => exact ih.act hact

theorem OnRecord.closeSession (h : broker.OnRecord id) (other : SessionId) :
    (broker.closeSession other).OnRecord id := by
  obtain ⟨hregistry, -, hdeparted⟩ := books_closeSession broker other
  exact (h.detached other).books hdeparted fun hnone ↦ hregistry ▸ hnone

theorem OnRecord.change (h : broker.OnRecord id)
    (hchange : Change setting operation broker after) : after.OnRecord id := by
  cases hchange with
  | none => exact h
  | @opened other sink _ _ =>
    refine h.books rfl fun hnone ↦ ?_
    have hget : (broker.openSession setting other sink).registry.get? id =
        if other = id then _ else broker.registry.get? id := Registry.get?_add
    rw [hget] at hnone
    split at hnone
    · cases hnone
    · exact hnone
  | enrolled hlive hnew _ _ _ _ _ henrol =>
    have hacts : Acts setting _ broker after := acts_enrol hlive hnew henrol
    exact h.acts hacts
  | subscribed _ _ _ _ _ _ hsubscribe =>
    obtain ⟨-, rfl⟩ := Session.subscribe?_eq_some_iff.mp hsubscribe
    exact h.books rfl (get?_eq_none_of_update fun _ _ ↦ rfl)
  | unsubscribed _ _ _ _ _ => exact h.books rfl (get?_eq_none_of_update fun _ heq ↦ heq)

theorem OnRecord.run (h : broker.OnRecord id) (hfresh : operation.Fresh broker) :
    (broker.run setting operation).OnRecord id :=
  invariant_run hfresh (fun hchange ↦ h.change hchange) fun hrecord houtput ↦ by
    rcases books_of_output houtput with ⟨hregistry, -, hdeparted⟩ | ⟨other, rfl⟩
    · exact hrecord.books hdeparted fun hnone ↦ hregistry ▸ hnone
    · exact hrecord.detached other

/-! ### Books in the middle of acts -/

/-- The books agree but for one session, of which they hold nothing without its record. -/
structure Loose (id : SessionId) (broker : Broker) : Prop where
  departed : ∀ session ∈ broker.departed, broker.registry.get? session.id = none
  unauthenticated : ∀ other session, id ≠ other → broker.registry.get? other = some session →
    session.authenticated = false → session.subscriptions = []
  listed : ∀ username other, id ≠ other → (broker.registry.Listed username other ↔
    ∃ session, broker.registry.get? other = some session ∧ session.authenticated = true ∧
      session.username = username)
  entries : ∀ key other subscription, id ≠ other →
    ((key, ⟨other, subscription⟩) ∈ broker.table.entries ↔
      ∃ session, broker.registry.get? other = some session ∧
        session.subscriptions.lookup subscription = some key)
  ownListed : ∀ username, broker.registry.Listed username id →
    ∃ session, broker.registry.get? id = some session ∧ session.authenticated = true ∧
      session.username = username
  ownEntries : ∀ key subscription, (key, ⟨id, subscription⟩) ∈ broker.table.entries →
    ∃ session, broker.registry.get? id = some session

theorem Consistent.loose (h : Consistent broker) (id : SessionId) : Loose id broker where
  departed := h.departed
  unauthenticated other session _ := h.unauthenticated other session
  listed username other _ := h.listed username other
  entries key other subscription _ := h.entries key other subscription
  ownListed username := (h.listed username id).mp
  ownEntries key subscription hentry := by
    obtain ⟨session, hlive, -⟩ := (h.entries key id subscription).mp hentry
    exact ⟨session, hlive⟩

/-- The record of the session may change if it stays under its user, once it is listed there. -/
theorem Loose.updated {change : Session → Session} (h : Loose session.id broker)
    (hchange : ∀ kept : Session, kept.id = session.id → (change kept).id = session.id)
    (hlive : broker.registry.get? session.id = some session)
    (hlisted : session.authenticated = true →
      (change session).authenticated = true ∧ (change session).username = session.username) :
    Loose session.id { broker with registry := broker.registry.update session.id change } := by
  have hown := Registry.get?_update_self hchange hlive
  have hothers : ∀ {other}, session.id ≠ other →
      (broker.registry.update session.id change).get? other = broker.registry.get? other :=
    fun hne ↦ (Registry.get?_update hchange).trans (if_neg hne)
  constructor
  · intro departed hmem
    have hnone := h.departed departed hmem
    have hne : session.id ≠ departed.id := by
      intro heq
      rw [← heq, hlive] at hnone
      cases hnone
    exact (hothers hne).trans hnone
  · intro other found hne
    simp only
    rw [hothers hne]
    exact h.unauthenticated other found hne
  · intro username other hne
    simp only
    rw [hothers hne]
    exact h.listed username other hne
  · intro key other subscription hne
    simp only
    rw [hothers hne]
    exact h.entries key other subscription hne
  · intro username hmem
    obtain ⟨found, hfound, hauthenticated, hname⟩ := h.ownListed username hmem
    obtain rfl : session = found := Option.some.inj (hlive.symm.trans hfound)
    obtain ⟨hkept, hsame⟩ := hlisted hauthenticated
    exact ⟨change session, hown, hkept, hsame.trans hname⟩
  · intro key subscription _
    exact ⟨change session, hown⟩

theorem Loose.retable {table : SubscriptionTable} (h : Loose id broker)
    (hentries : ∀ key other subscription, id ≠ other →
      ((key, ⟨other, subscription⟩) ∈ table.entries ↔
        (key, ⟨other, subscription⟩) ∈ broker.table.entries))
    (hown : ∀ key subscription, (key, ⟨id, subscription⟩) ∈ table.entries →
      ∃ session, broker.registry.get? id = some session) :
    Loose id { broker with table } where
  departed := h.departed
  unauthenticated := h.unauthenticated
  listed := h.listed
  entries key other subscription hne :=
    (hentries key other subscription hne).trans (h.entries key other subscription hne)
  ownListed := h.ownListed
  ownEntries := hown

theorem Loose.bound {registry : Registry} (h : Loose session.id broker)
    (hlive : broker.registry.get? session.id = some session)
    (hauthenticated : session.authenticated = true)
    (hbind : broker.registry.bind session.id session.username = .ok registry) :
    Loose session.id { broker with registry } := by
  have hget : ∀ {other}, registry.get? other = broker.registry.get? other :=
    Registry.get?_of_bind hbind
  constructor
  · intro departed hmem
    exact hget.trans (h.departed departed hmem)
  · intro other found hne
    simp only
    rw [hget]
    exact h.unauthenticated other found hne
  · intro username other hne
    simp only
    rw [hget, ← h.listed username other hne, Registry.listed_of_bind hbind]
    simp [hne.symm]
  · intro key other subscription hne
    simp only
    rw [hget]
    exact h.entries key other subscription hne
  · intro username hlisted
    simp only
    rw [hget]
    rcases (Registry.listed_of_bind hbind).mp hlisted with ⟨rfl, -⟩ | hlisted
    · exact ⟨session, hlive, hauthenticated, rfl⟩
    · exact h.ownListed username hlisted
  · intro key subscription hentry
    simp only
    rw [hget]
    exact h.ownEntries key subscription hentry

/-- A user's row gives up the one id that it held for the session. -/
theorem Loose.listed_of_remove {left : Session} {username : String} (h : Loose id broker)
    (hlive : broker.registry.get? left.id = some left)
    (hlisted : (broker.registry.remove left.id).2.Listed username other) :
    broker.registry.Listed username other ∧ left.id ≠ other := by
  obtain ⟨hmem, hnot⟩ := (Registry.listed_remove hlive).mp hlisted
  refine ⟨hmem, fun heq ↦ ?_⟩
  subst heq
  have hfound : ∃ session, broker.registry.get? left.id = some session ∧
      session.authenticated = true ∧ session.username = username := by
    by_cases hne : id = left.id
    · subst hne
      exact h.ownListed username hmem
    · exact (h.listed username left.id hne).mp hmem
  obtain ⟨session, hsession, -, hname⟩ := hfound
  obtain rfl : left = session := Option.some.inj (hlive.symm.trans hsession)
  exact hnot ⟨hname.symm, rfl⟩

/-- Whoever is taken out leaves nothing behind. -/
theorem Loose.detached (h : Loose id broker) (other : SessionId) :
    Loose id (broker.detach other).2 := by
  cases hlive : broker.registry.get? other with
  | none =>
    rw [detach_of_none hlive]
    exact h
  | some left =>
    have hleft := Registry.id_of_get? hlive
    subst hleft
    rw [detach_of_some hlive]
    constructor
    · exact fun departed hmem ↦ get?_remove_of_mem_departed h.departed hmem rfl
    · intro kept found hne hfound
      simp only at hfound
      rw [Registry.get?_remove] at hfound
      split at hfound
      · cases hfound
      · exact h.unauthenticated kept found hne hfound
    · intro username kept hne
      simp only
      rw [Registry.get?_remove]
      by_cases hkept : left.id = kept
      · rw [if_pos hkept]
        constructor
        · intro hmem
          exact absurd hkept (h.listed_of_remove hlive hmem).2
        · rintro ⟨found, hfound, -⟩
          cases hfound
      · rw [if_neg hkept, Registry.listed_remove hlive, h.listed username kept hne]
        have hother : kept ≠ left.id := fun heq ↦ hkept heq.symm
        simp [hother]
    · intro key kept subscription hne
      simp only
      rw [SubscriptionTable.mem_entries_removeSession, Registry.get?_remove]
      by_cases hkept : left.id = kept
      · simp [hkept]
      · have hother : kept ≠ left.id := fun heq ↦ hkept heq.symm
        simp only [if_neg hkept, hother, ne_eq, not_false_eq_true, and_true]
        exact h.entries key kept subscription hne
    · intro username hmem
      obtain ⟨hmem, hne⟩ := h.listed_of_remove hlive hmem
      simp only
      rw [Registry.get?_remove, if_neg hne]
      exact h.ownListed username hmem
    · intro key subscription hentry
      obtain ⟨hentry, hne⟩ := SubscriptionTable.mem_entries_removeSession.mp hentry
      simp only
      rw [Registry.get?_remove, if_neg fun heq ↦ hne heq.symm]
      exact h.ownEntries key subscription hentry

theorem Loose.congr (h : Loose id broker) (hregistry : after.registry = broker.registry)
    (htable : after.table = broker.table) (hdeparted : after.departed = broker.departed) :
    Loose id after := by
  obtain ⟨departed, unauthenticated, listed, entries, ownListed, ownEntries⟩ := h
  constructor
  · rwa [hdeparted, hregistry]
  · rwa [hregistry]
  · rwa [hregistry]
  · rwa [htable, hregistry]
  · rwa [hregistry]
  · rwa [htable, hregistry]

theorem Loose.act (h : Loose id broker) (hact : Act setting (some id) broker after) :
    Loose id after := by
  cases hact with
  | named username version hclient hlive hnew =>
    obtain rfl := Option.some.inj hclient
    refine h.updated (fun _ heq ↦ heq) hlive fun hauthenticated ↦ ?_
    rw [hnew] at hauthenticated
    cases hauthenticated
  | bound hclient hlive hauthenticated hbind =>
    obtain rfl := Option.some.inj hclient
    exact h.bound hlive hauthenticated hbind
  | noted hclient hlive hsubscribe =>
    obtain rfl := Option.some.inj hclient
    obtain ⟨-, rfl⟩ := Session.subscribe?_eq_some_iff.mp hsubscribe
    exact h.updated (fun _ _ ↦ rfl) hlive fun hauthenticated ↦ ⟨hauthenticated, rfl⟩
  | @entered session key subscription hclient hlive =>
    obtain rfl := Option.some.inj hclient
    refine h.retable (fun other kept name hne ↦ ?_) fun _ _ _ ↦ ⟨session, hlive⟩
    rw [SubscriptionTable.mem_entries_add]
    simp [hne.symm]
  | dropped subscription hclient hlive =>
    obtain rfl := Option.some.inj hclient
    exact h.updated (fun _ heq ↦ heq) hlive fun hauthenticated ↦ ⟨hauthenticated, rfl⟩
  | removed key subscription hclient =>
    obtain rfl := Option.some.inj hclient
    refine h.retable (fun other kept name hne ↦ ?_) fun other name hentry ↦ ?_
    · rw [SubscriptionTable.mem_entries_remove]
      simp [hne.symm]
    · exact h.ownEntries other name (SubscriptionTable.mem_entries_remove.mp hentry).1
  | replied _ _ => exact h.congr rfl rfl rfl
  | delivered _ _ _ _ => exact h.congr rfl rfl rfl
  | @retired other _ =>
    obtain ⟨hregistry, htable, hdeparted⟩ := books_retire broker other
    exact (h.detached other).congr hregistry htable hdeparted

theorem Loose.acts (h : Loose id broker) (hacts : Acts setting (some id) broker after) :
    Loose id after := by
  induction hacts with
  | refl => exact h
  | tail _ hact ih => exact ih.act hact

/-- Without its record the books hold nothing of the session, and so they agree. -/
theorem Loose.consistent (h : Loose id broker) (hgone : broker.registry.get? id = none) :
    Consistent broker := by
  constructor
  · exact h.departed
  · intro other session hlive
    refine h.unauthenticated other session (fun heq ↦ ?_) hlive
    rw [← heq, hgone] at hlive
    cases hlive
  · intro username other
    by_cases hid : id = other
    · subst hid
      refine ⟨h.ownListed username, ?_⟩
      rw [hgone]
      rintro ⟨session, hlive, -⟩
      cases hlive
    · exact h.listed username other hid
  · intro key other subscription
    by_cases hid : id = other
    · subst hid
      constructor
      · intro hentry
        obtain ⟨session, hlive⟩ := h.ownEntries key subscription hentry
        rw [hgone] at hlive
        cases hlive
      · rw [hgone]
        rintro ⟨session, hlive, -⟩
        cases hlive
    · exact h.entries key other subscription hid

theorem get?_closeSession (broker : Broker) (id : SessionId) :
    (broker.closeSession id).registry.get? other =
      if id = other then none else broker.registry.get? other := by
  rw [(books_closeSession broker id).1, get?_detach]

/-- Wherever the acts for a client broke off, the books agree once its session is closed. -/
theorem Loose.closeSession (h : Loose id broker) : Consistent (broker.closeSession id) := by
  refine Loose.consistent ?_ ((get?_closeSession broker id).trans (if_pos rfl))
  obtain ⟨hregistry, htable, hdeparted⟩ := books_closeSession broker id
  exact (h.detached id).congr hregistry htable hdeparted

end Broker

end StompBroker
