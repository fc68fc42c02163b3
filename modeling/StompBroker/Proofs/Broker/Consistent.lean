import StompBroker.Proofs.Broker.Step

/-!
# The books of the broker agree

The broker keeps the same facts in several places. `Consistent` says how they hang together: the
table and the sessions' own maps are one relation, the rows of users list exactly the authenticated
sessions, and a session that has left is not live. Each change keeps that (`Consistent.change`), and
so does each act of output (`Consistent.output`), since of these only `detach` touches the books.
Every reachable broker is consistent (`Reachable.consistent`), whatever its sinks did.
-/

set_option autoImplicit false

namespace StompBroker.Broker

variable {setting : Setting} {operation : Operation}
  {origin broker after : Broker}

/-- The registry, the table and the record of departed sessions describe the same sessions. -/
structure Consistent (broker : Broker) : Prop where
  departed : ∀ session ∈ broker.departed, broker.registry.get? session.id = none
  unauthenticated : ∀ id session, broker.registry.get? id = some session →
    session.authenticated = false → session.subscriptions = []
  listed : ∀ username id, broker.registry.Listed username id ↔
    ∃ session, broker.registry.get? id = some session ∧ session.authenticated = true ∧
      session.username = username
  entries : ∀ key id subscription, (key, ⟨id, subscription⟩) ∈ broker.table.entries ↔
    ∃ session, broker.registry.get? id = some session ∧
      session.subscriptions.lookup subscription = some key

/-- Nothing else of a broker matters. -/
theorem Consistent.congr (h : Consistent broker) (hregistry : after.registry = broker.registry)
    (htable : after.table = broker.table) (hdeparted : after.departed = broker.departed) :
    Consistent after := by
  constructor
  · rw [hdeparted, hregistry]
    exact h.departed
  · rw [hregistry]
    exact h.unauthenticated
  · rw [hregistry]
    exact h.listed
  · rw [htable, hregistry]
    exact h.entries

/-- No book of the broker holds the session. -/
structure Absent (broker : Broker) (id : SessionId) : Prop where
  removed : broker.registry.get? id = none
  unlisted : ∀ username, ¬broker.registry.Listed username id
  withdrawn : ∀ key subscription, (key, ⟨id, subscription⟩) ∉ broker.table.entries

/-- Without its record the books hold nothing of a session. -/
theorem Consistent.absent (h : Consistent broker) {id : SessionId}
    (hremoved : broker.registry.get? id = none) :
    broker.Absent id := by
  refine ⟨hremoved, fun username hlisted ↦ ?_, fun key subscription hentry ↦ ?_⟩
  · obtain ⟨session, hlive, -⟩ := (h.listed username id).mp hlisted
    rw [hremoved] at hlive
    cases hlive
  · obtain ⟨session, hlive, -⟩ := (h.entries key id subscription).mp hentry
    rw [hremoved] at hlive
    cases hlive

theorem consistent_empty : Consistent {} := by
  constructor
  · simp
  · simp [Registry.get?]
  · simp [Registry.Listed, Registry.get?]
  · simp [SubscriptionTable.entries, Registry.get?]

/-! ### Changes -/

theorem session?_of_get? {id : SessionId} {session : Session}
    (h : broker.registry.get? id = some session) : broker.session? id = some session := by
  rw [session?, h]

theorem session?_eq_or {id : SessionId} :
    broker.session? id =
      (broker.registry.get? id).or (broker.departed.find? fun session ↦ session.id == id) := by
  unfold session?
  cases broker.registry.get? id with
  | none => rfl
  | some session => rfl

theorem session?_eq_none_iff {id : SessionId} :
    broker.session? id = none ↔
      broker.registry.get? id = none ∧ ∀ session ∈ broker.departed, session.id ≠ id := by
  unfold session?
  cases hget : broker.registry.get? id with
  | none => simp
  | some session => simp

theorem Consistent.opened (h : Consistent broker) {id : SessionId} (sink : Sink)
    (hfresh : broker.session? id = none) : Consistent (broker.openSession setting id sink) := by
  obtain ⟨hnone, hdeparted⟩ := session?_eq_none_iff.mp hfresh
  have hget : ∀ other, (broker.openSession setting id sink).registry.get? other =
      if id = other then some { id, connectTime := setting.clock.millis }
        else broker.registry.get? other := fun other ↦ Registry.get?_add
  constructor
  · intro session hmem
    rw [hget, if_neg (hdeparted session hmem).symm]
    exact h.departed session hmem
  · intro other session hsession hnew
    rw [hget] at hsession
    split at hsession
    · cases hsession
      rfl
    · exact h.unauthenticated other session hsession hnew
  · intro username other
    refine (h.listed username other).trans ?_
    by_cases hid : id = other
    · subst hid
      simp [hget, hnone]
    · simp [hget, hid]
  · intro key other subscription
    refine (h.entries key other subscription).trans ?_
    by_cases hid : id = other
    · subst hid
      simp [hget, hnone]
    · simp [hget, hid]

/-- The record of one session may change if the rows and the table follow. -/
theorem Consistent.replaced (h : Consistent broker) (changed : Session) {session : Session}
    {registry : Registry} {table : SubscriptionTable}
    (hlive : broker.registry.get? session.id = some session)
    (hget : ∀ id, registry.get? id =
      if session.id = id then some changed else broker.registry.get? id)
    (hunauthenticated : changed.authenticated = false → changed.subscriptions = [])
    (hlisted : ∀ username id, registry.Listed username id ↔
      if session.id = id then changed.authenticated = true ∧ changed.username = username
        else broker.registry.Listed username id)
    (hentries : ∀ key id subscription, (key, ⟨id, subscription⟩) ∈ table.entries ↔
      if session.id = id then changed.subscriptions.lookup subscription = some key
        else (key, ⟨id, subscription⟩) ∈ broker.table.entries) :
    Consistent { broker with registry, table } := by
  constructor
  · intro departed hmem
    have hnone := h.departed departed hmem
    have hid : session.id ≠ departed.id := by
      intro heq
      rw [← heq, hlive] at hnone
      cases hnone
    simp only
    rw [hget, if_neg hid]
    exact hnone
  · intro id found hfound hnew
    simp only at hfound
    rw [hget] at hfound
    split at hfound
    · cases hfound
      exact hunauthenticated hnew
    · exact h.unauthenticated id found hfound hnew
  · intro username id
    simp only
    rw [hlisted, hget]
    by_cases hid : session.id = id
    · simp [hid]
    · simp only [if_neg hid]
      exact h.listed username id
  · intro key id subscription
    simp only
    rw [hentries, hget]
    by_cases hid : session.id = id
    · simp [hid]
    · simp only [if_neg hid]
      exact h.entries key id subscription

/-- In a consistent broker the table holds what a session's own map says. -/
theorem Consistent.mem_entries_iff (h : Consistent broker) {session : Session}
    (hlive : broker.registry.get? session.id = some session) {key subscription : String} :
    (key, ⟨session.id, subscription⟩) ∈ broker.table.entries ↔
      session.subscriptions.lookup subscription = some key := by
  rw [h.entries, hlive]
  simp

/-- In a consistent broker a session is listed under its own user alone, once it has one. -/
theorem Consistent.listed_iff (h : Consistent broker) {session : Session}
    (hlive : broker.registry.get? session.id = some session) {username : String} :
    broker.registry.Listed username session.id ↔
      session.authenticated = true ∧ session.username = username := by
  rw [h.listed, hlive]
  simp

theorem Consistent.enrolled (h : Consistent broker) {session : Session} {username : String}
    {version : Version} (hlive : broker.registry.get? session.id = some session)
    (hnew : session.authenticated = false)
    (henrol : broker.enrol session username version = .ok after) : Consistent after := by
  obtain ⟨registry, hbind, rfl⟩ := enrol_eq_ok_iff.mp henrol
  refine h.replaced (session.authenticate username version) hlive ?_ ?_ ?_ ?_
  · intro id
    rw [Registry.get?_of_bind hbind, Registry.get?_update, hlive, Option.map_some]
    exact fun _ hid ↦ hid
  · intro hunauthenticated
    cases hunauthenticated
  · intro owner id
    rw [Registry.listed_of_bind hbind, Registry.listed_update]
    by_cases hid : session.id = id
    · subst hid
      have hunlisted : ¬broker.registry.Listed owner session.id := by
        rw [h.listed_iff hlive, hnew]
        simp
      simp [hunlisted, Session.authenticate, eq_comm]
    · have hne : id ≠ session.id := fun heq ↦ hid heq.symm
      simp [hid, hne]
  · intro key id subscription
    by_cases hid : session.id = id
    · subst hid
      rw [if_pos rfl, h.mem_entries_iff hlive]
      rfl
    · rw [if_neg hid]

theorem Consistent.subscribed (h : Consistent broker) {session subscribed : Session}
    {subscription key : String} (hlive : broker.registry.get? session.id = some session)
    (hauthenticated : session.authenticated = true)
    (hsubscribe : session.subscribe? subscription key = some subscribed) :
    Consistent
      { broker with
        registry := broker.registry.update session.id fun _ ↦ subscribed
        table := broker.table.add key ⟨session.id, subscription⟩ } := by
  obtain ⟨hfree, hsubscribed⟩ := Session.subscribe?_eq_some_iff.mp hsubscribe
  have hid : subscribed.id = session.id := by rw [← hsubscribed]
  have hsame : subscribed.authenticated = true ∧ subscribed.username = session.username := by
    rw [← hsubscribed]
    exact ⟨hauthenticated, rfl⟩
  refine h.replaced subscribed hlive ?_ ?_ ?_ ?_
  · intro id
    rw [Registry.get?_update fun _ _ ↦ hid, hlive, Option.map_some]
  · intro hunauthenticated
    rw [hsame.1] at hunauthenticated
    cases hunauthenticated
  · intro owner id
    rw [Registry.listed_update]
    by_cases hother : session.id = id
    · subst hother
      rw [if_pos rfl, h.listed_iff hlive, hsame.1, hsame.2, hauthenticated]
    · rw [if_neg hother]
  · intro other id name
    rw [SubscriptionTable.mem_entries_add]
    by_cases hother : session.id = id
    · subst hother
      rw [if_pos rfl, h.mem_entries_iff hlive, Session.lookup_of_subscribe? hsubscribe]
      by_cases hname : subscription = name
      · subst hname
        simp [hfree, eq_comm]
      · have hne : name ≠ subscription := fun heq ↦ hname heq.symm
        simp [hname, hne]
    · have hne : id ≠ session.id := fun heq ↦ hother heq.symm
      simp [hother, hne]

theorem Consistent.unsubscribed (h : Consistent broker) {session : Session}
    {subscription key : String} (hlive : broker.registry.get? session.id = some session)
    (hkey : session.subscriptions.lookup subscription = some key) :
    Consistent
      { broker with
        registry := broker.registry.update session.id (·.unsubscribe subscription)
        table := (broker.table.remove key ⟨session.id, subscription⟩).2 } := by
  refine h.replaced (session.unsubscribe subscription) hlive ?_ ?_ ?_ ?_
  · intro id
    rw [Registry.get?_update, hlive, Option.map_some]
    exact fun _ hid ↦ hid
  · intro hunauthenticated
    have hempty := h.unauthenticated session.id session hlive hunauthenticated
    simp [Session.unsubscribe, hempty]
  · intro owner id
    rw [Registry.listed_update]
    by_cases hother : session.id = id
    · subst hother
      rw [if_pos rfl, h.listed_iff hlive]
      rfl
    · rw [if_neg hother]
  · intro other id name
    rw [SubscriptionTable.mem_entries_remove]
    by_cases hother : session.id = id
    · subst hother
      rw [if_pos rfl, h.mem_entries_iff hlive, Session.lookup_unsubscribe]
      by_cases hname : subscription = name
      · subst hname
        simp [hkey, eq_comm]
      · have hne : name ≠ subscription := fun heq ↦ hname heq.symm
        simp [hname, hne]
    · have hne : id ≠ session.id := fun heq ↦ hother heq.symm
      simp [hother, hne]

/-- No change breaks the books. -/
theorem Consistent.change (h : Consistent broker)
    (hchange : Change setting operation broker after) : Consistent after := by
  cases hchange with
  | none => exact h
  | opened _ hfresh => exact h.opened _ hfresh
  | enrolled hlive hnew _ _ _ _ _ henrol => exact h.enrolled hlive hnew henrol
  | subscribed hlive hauthenticated _ _ _ _ hsubscribe =>
    exact h.subscribed hlive hauthenticated hsubscribe
  | unsubscribed hlive _ _ _ hkey => exact h.unsubscribed hlive hkey

/-! ### Output -/

theorem detach_of_none {id : SessionId} (h : broker.registry.get? id = none) :
    broker.detach id = (false, broker) := by
  unfold detach
  rw [Registry.remove_of_none h]

theorem detach_of_some {id : SessionId} {session : Session}
    (h : broker.registry.get? id = some session) :
    broker.detach id =
      (true,
        { broker with
          registry := (broker.registry.remove id).2
          table := (broker.table.removeSession id).2
          departed :=
            broker.departed ++ [{ session with subscriptions := [], cancelled := true }] }) := by
  unfold detach
  rw [Registry.remove_of_some h]

theorem registry_detach {id : SessionId} :
    (broker.detach id).2.registry = (broker.registry.remove id).2 := by
  cases hget : broker.registry.get? id with
  | none => rw [detach_of_none hget, Registry.remove_of_none hget]
  | some session => rw [detach_of_some hget]

theorem get?_detach {id other : SessionId} :
    (broker.detach id).2.registry.get? other =
      if id = other then none else broker.registry.get? other := by
  rw [registry_detach, Registry.get?_remove]

/-- What was taken out before is still out once one more session is. -/
theorem get?_remove_of_mem_departed {id : SessionId} {gone departed : Session}
    (h : ∀ departed ∈ broker.departed, broker.registry.get? departed.id = none)
    (hmem : departed ∈ broker.departed ++ [gone]) (hgone : gone.id = id) :
    (broker.registry.remove id).2.get? departed.id = none := by
  rw [Registry.get?_remove]
  rcases List.mem_append.mp hmem with hbefore | hlast
  · rw [h departed hbefore, ite_self]
  · rw [List.mem_singleton.mp hlast, if_pos hgone.symm]

theorem Consistent.detached (h : Consistent broker) (id : SessionId) :
    Consistent (broker.detach id).2 := by
  cases hget : broker.registry.get? id with
  | none =>
    rw [detach_of_none hget]
    exact h
  | some session =>
    have hid := Registry.id_of_get? hget
    subst hid
    rw [detach_of_some hget]
    constructor
    · exact fun departed hmem ↦ get?_remove_of_mem_departed h.departed hmem rfl
    · intro other found hfound hnew
      simp only at hfound
      rw [Registry.get?_remove] at hfound
      split at hfound
      · cases hfound
      · exact h.unauthenticated other found hfound hnew
    · intro username other
      simp only
      rw [Registry.listed_remove hget, Registry.get?_remove]
      by_cases hother : session.id = other
      · subst hother
        rw [h.listed_iff hget, if_pos rfl]
        constructor
        · rintro ⟨⟨-, hname⟩, hnot⟩
          exact absurd ⟨hname.symm, rfl⟩ hnot
        · rintro ⟨found, hfound, -⟩
          cases hfound
      · have hne : other ≠ session.id := fun heq ↦ hother heq.symm
        simp only [if_neg hother, hne, and_false, not_false_eq_true, and_true]
        exact h.listed username other
    · intro key other subscription
      simp only
      rw [SubscriptionTable.mem_entries_removeSession, Registry.get?_remove]
      by_cases hother : session.id = other
      · simp [hother]
      · have hne : other ≠ session.id := fun heq ↦ hother heq.symm
        simp only [if_neg hother, hne, ne_eq, not_false_eq_true, and_true]
        exact h.entries key other subscription

/-- Output touches the books only where it takes a session out. -/
theorem books_of_output (houtput : Output setting operation origin broker after) :
    (after.registry = broker.registry ∧ after.table = broker.table ∧
      after.departed = broker.departed) ∨ ∃ id, after = (broker.detach id).2 := by
  cases houtput with
  | replied _ _ => exact .inl ⟨rfl, rfl, rfl⟩
  | delivered _ _ _ _ _ => exact .inl ⟨rfl, rfl, rfl⟩
  | detached id => exact .inr ⟨id, rfl⟩
  | postponed _ => exact .inl ⟨rfl, rfl, rfl⟩
  | closed _ => exact .inl ⟨rfl, rfl, rfl⟩
  | answered _ _ => exact .inl ⟨rfl, rfl, rfl⟩

/-- No output breaks the books. -/
theorem Consistent.output (h : Consistent broker)
    (houtput : Output setting operation origin broker after) : Consistent after := by
  rcases books_of_output houtput with ⟨hregistry, htable, hdeparted⟩ | ⟨id, rfl⟩
  · exact h.congr hregistry htable hdeparted
  · exact h.detached id

theorem Consistent.outputs (h : Consistent broker)
    (houtputs : Outputs setting operation origin broker after) : Consistent after := by
  induction houtputs with
  | refl => exact h
  | tail _ houtput ih => exact ih.output houtput

theorem Consistent.run (h : Consistent broker) (hfresh : operation.Fresh broker) :
    Consistent (broker.run setting operation) :=
  invariant_run hfresh (fun hchange ↦ h.change hchange) fun hconsistent houtput ↦
    hconsistent.output houtput

/-- Whatever the broker was asked for, its books agree. -/
theorem Reachable.consistent {allowed : Setting → Broker → Operation → Prop}
    (h : Reachable allowed broker) : Consistent broker :=
  h.invariant consistent_empty (fun _ _ hconsistent hchange ↦ hconsistent.change hchange)
    fun hconsistent houtput ↦ hconsistent.output houtput

/-- Output leaves the records of the sessions that stay live. -/
theorem get?_of_output (houtput : Output setting operation origin broker after) {id : SessionId}
    {session : Session} (hlive : after.registry.get? id = some session) :
    broker.registry.get? id = some session := by
  rcases books_of_output houtput with ⟨hregistry, -, -⟩ | ⟨other, rfl⟩
  · rw [← hregistry]
    exact hlive
  · rw [get?_detach] at hlive
    split at hlive
    · cases hlive
    · exact hlive

/-! ### Sessions that leave -/

/-- A session that is taken out stays on record as it was, apart from its subscriptions. -/
theorem Consistent.session?_detach_self (h : Consistent broker) {id : SessionId} {session : Session}
    (hlive : broker.registry.get? id = some session) :
    (broker.detach id).2.session? id =
      some { session with subscriptions := [], cancelled := true } := by
  have hid : session.id = id := Registry.id_of_get? hlive
  have hdeparted : broker.departed.find? (fun departed ↦ departed.id == id) = none := by
    rw [List.find?_eq_none]
    intro departed hmem
    have hnone := h.departed departed hmem
    simp only [beq_iff_eq]
    rintro rfl
    rw [hlive] at hnone
    cases hnone
  rw [detach_of_some hlive]
  unfold session?
  simp only
  rw [Registry.get?_remove, if_pos rfl, List.find?_append, hdeparted]
  simp [hid]

theorem session?_detach_of_ne {id other : SessionId} (hne : other ≠ id) :
    (broker.detach other).2.session? id = broker.session? id := by
  cases hget : broker.registry.get? other with
  | none => rw [detach_of_none hget]
  | some left =>
    have hid : left.id = other := Registry.id_of_get? hget
    have hleft : left.id ≠ id := hid ▸ hne
    rw [detach_of_some hget, session?_eq_or, session?_eq_or]
    simp only
    rw [Registry.get?_remove, if_neg hne, List.find?_append, List.find?_cons_of_neg (by simpa),
      List.find?_nil, Option.or_none]

/-- Output takes sessions out, but what their handshakes settled stays on record. -/
theorem exists_session?_of_output (h : Consistent broker)
    (houtput : Output setting operation origin broker after) {id : SessionId} {session : Session}
    (hsession : broker.session? id = some session) :
    ∃ kept, after.session? id = some kept ∧ kept.version = session.version ∧
      kept.username = session.username := by
  rcases books_of_output houtput with ⟨hregistry, -, hdeparted⟩ | ⟨other, rfl⟩
  · refine ⟨session, ?_, rfl, rfl⟩
    unfold session? at hsession ⊢
    rw [hregistry, hdeparted]
    exact hsession
  · by_cases hid : other = id
    · subst hid
      cases hlive : broker.registry.get? other with
      | none =>
        rw [detach_of_none hlive]
        exact ⟨session, hsession, rfl, rfl⟩
      | some live =>
        rw [session?_of_get? hlive] at hsession
        cases hsession
        exact ⟨_, h.session?_detach_self hlive, rfl, rfl⟩
    · rw [session?_detach_of_ne hid]
      exact ⟨session, hsession, rfl, rfl⟩

theorem exists_session?_of_outputs (h : Consistent broker)
    (houtputs : Outputs setting operation origin broker after) {id : SessionId} {session : Session}
    (hsession : broker.session? id = some session) :
    ∃ kept, after.session? id = some kept ∧ kept.version = session.version ∧
      kept.username = session.username := by
  induction houtputs with
  | refl => exact ⟨session, hsession, rfl, rfl⟩
  | tail houtputs houtput ih =>
    obtain ⟨kept, hkept, hversion, husername⟩ := ih
    obtain ⟨last, hlast, hversion', husername'⟩ :=
      exists_session?_of_output (h.outputs houtputs) houtput hkept
    exact ⟨last, hlast, hversion'.trans hversion, husername'.trans husername⟩

end StompBroker.Broker
