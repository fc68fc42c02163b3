import StompBroker.Proofs.Broker.Closing

/-!
# One attempt for each session

Two things hold after any deeds of the broker, wherever they break off. The sessions that have left
are `Accounted` for: each of them left once, without subscriptions and told to stop, and for each
either one attempt was made to close its connection, or one still waits for `closeLeft`. And the
registry and the table stay `Mapped`: they are the maps into sets that they stand for, so that no
row is empty.
-/

set_option autoImplicit false

namespace StompBroker

/-- The event is an attempt to close the connection of the session. -/
def Event.closes (id : SessionId) : Event → Bool
  | .closed other _ => other == id
  | .wrote _ _ _ _ | .answered _ _ => false

namespace Broker

variable {setting : Setting} {operation : Operation} {client : Option SessionId}
  {broker after : Broker} {id other : SessionId} {session : Session}

/-! ### Who has left -/

/-- The ids of the sessions that have left. -/
def left (broker : Broker) : List SessionId := broker.departed.map Session.id

theorem closeSession_of_none (h : broker.registry.get? id = none) :
    broker.closeSession id = broker := by
  rw [closeSession, detach_of_none h]

theorem closeSession_of_some (h : broker.registry.get? id = some session) :
    broker.closeSession id =
      closeSink
        { broker with
          registry := (broker.registry.remove id).2
          table := (broker.table.removeSession id).2
          departed :=
            broker.departed ++ [{ session with subscriptions := [], cancelled := true }] } id := by
  rw [closeSession, detach_of_some h]

theorem retire_of_none (h : broker.registry.get? id = none) : broker.retire id = broker := by
  rw [retire, detach_of_none h]

theorem retire_of_some (h : broker.registry.get? id = some session) :
    broker.retire id =
      { broker with
        registry := (broker.registry.remove id).2
        table := (broker.table.removeSession id).2
        departed := broker.departed ++ [{ session with subscriptions := [], cancelled := true }]
        closing := broker.closing ++ [id] } := by
  rw [retire, detach_of_some h]

/-- Acts take out sessions only where a write failed. -/
theorem departed_of_act (h : Act setting client broker after) :
    (after.departed = broker.departed ∧ after.closing = broker.closing) ∨
      ∃ id, after = broker.retire id := by
  cases h with
  | retired _ => exact .inr ⟨_, rfl⟩
  | _ => exact .inl ⟨rfl, rfl⟩

theorem departed_prefix_detach (broker : Broker) (id : SessionId) :
    broker.departed <+: (broker.detach id).2.departed := by
  cases hlive : broker.registry.get? id with
  | none =>
    have hsame : (broker.detach id).2.departed = broker.departed := by rw [detach_of_none hlive]
    exact hsame ▸ List.prefix_refl _
  | some session =>
    rw [detach_of_some hlive]
    exact List.prefix_append _ _

/-- Nobody comes back. -/
theorem departed_prefix_of_deed (h : Deed broker after) : broker.departed <+: after.departed := by
  cases h with
  | acted hact =>
    rcases departed_of_act hact with ⟨hdeparted, -⟩ | ⟨id, rfl⟩
    · exact hdeparted ▸ List.prefix_refl _
    · exact (books_retire broker id).2.2 ▸ departed_prefix_detach broker id
  | opened _ => exact List.prefix_refl _
  | answered _ _ => exact List.prefix_refl _
  | closed id => exact (books_closeSession broker id).2.2 ▸ departed_prefix_detach broker id
  | swept =>
    have hsame : broker.closeLeft.departed = broker.departed :=
      (departed_foldl_closeSink { broker with closing := [] } broker.closing).1
    exact hsame ▸ List.prefix_refl _

theorem departed_prefix_of_deeds (h : Deeds broker after) :
    broker.departed <+: after.departed := by
  induction h with
  | refl => exact List.prefix_refl _
  | tail _ hdeed ih => exact ih.trans (departed_prefix_of_deed hdeed)

theorem mem_left_of_deeds (h : Deeds broker after) (hleft : id ∈ broker.left) :
    id ∈ after.left := by
  obtain ⟨session, hmem, rfl⟩ := List.mem_map.mp hleft
  exact List.mem_map_of_mem ((departed_prefix_of_deeds h).subset hmem)

/-- Whoever is on record and not live has left. -/
theorem OnRecord.mem_left (h : broker.OnRecord id) (hremoved : broker.registry.get? id = none) :
    id ∈ broker.left := by
  by_contra hnot
  refine h (session?_eq_none_iff.mpr ⟨hremoved, fun session hmem hid ↦ hnot ?_⟩)
  exact List.mem_map.mpr ⟨session, hmem, hid⟩

/-- Acts give nobody a record who has none. -/
theorem get?_eq_none_of_act (h : Act setting client broker after)
    (hnone : broker.registry.get? id = none) : after.registry.get? id = none := by
  have hupdated : ∀ {session : Session} {change : Session → Session},
      (∀ kept : Session, kept.id = session.id → (change kept).id = session.id) →
        (broker.registry.update session.id change).get? id = none := by
    intro session change hchange
    rw [Registry.get?_update hchange]
    split
    · rename_i hid
      rw [hid, hnone, Option.map_none]
    · exact hnone
  cases h with
  | named _ _ _ _ _ => exact hupdated fun _ heq ↦ heq
  | bound _ _ _ hbind => exact (Registry.get?_of_bind hbind).trans hnone
  | noted _ _ hsubscribe =>
    obtain ⟨-, rfl⟩ := Session.subscribe?_eq_some_iff.mp hsubscribe
    exact hupdated fun _ _ ↦ rfl
  | entered _ _ _ _ => exact hnone
  | dropped _ _ _ => exact hupdated fun _ heq ↦ heq
  | removed _ _ _ => exact hnone
  | replied _ _ => exact hnone
  | delivered _ _ _ _ => exact hnone
  | retired _ => rw [get?_retire, hnone, ite_self]

/-! ### Attempts -/

/-- How many attempts were made to close the connection of a session. -/
def attempts (broker : Broker) (id : SessionId) : Nat := broker.journal.countP (Event.closes id)

theorem attempts_of_journal {events : List Event} (h : after.journal = broker.journal ++ events) :
    after.attempts id = broker.attempts id + events.countP (Event.closes id) := by
  rw [attempts, h, List.countP_append, attempts]

theorem attempts_of_act (h : Act setting client broker after) :
    after.attempts id = broker.attempts id := by
  obtain ⟨events, hjournal, huttered⟩ := exists_journal_of_act h
  rw [attempts_of_journal hjournal, List.countP_eq_zero.mpr, Nat.add_zero]
  intro event hmem
  have hevent := huttered event hmem
  cases event with
  | closed _ _ => exact hevent.elim
  | wrote _ _ _ _ => exact Bool.false_ne_true
  | answered _ _ => exact Bool.false_ne_true

theorem attempts_closeSink (broker : Broker) (id other : SessionId) :
    (broker.closeSink id).attempts other = broker.attempts other + [id].count other := by
  have hjournal : (broker.closeSink id).journal =
      broker.journal ++ [.closed id (broker.sink id).close.1] := rfl
  rw [attempts_of_journal hjournal]
  rfl

theorem attempts_closeSink_foldl (ids : List SessionId) (other : SessionId) :
    (ids.foldl closeSink broker).attempts other = broker.attempts other + ids.count other := by
  induction ids generalizing broker with
  | nil => rfl
  | cons id ids ih =>
    have hcount : (id :: ids).count other = [id].count other + ids.count other := by
      rw [← List.count_append, List.singleton_append]
    rw [List.foldl_cons, ih, attempts_closeSink, hcount, Nat.add_assoc]

theorem attempts_closeLeft (broker : Broker) (id : SessionId) :
    broker.closeLeft.attempts id = broker.attempts id + broker.closing.count id :=
  attempts_closeSink_foldl broker.closing id

theorem attempts_le_of_deed (h : Deed broker after) : broker.attempts id ≤ after.attempts id := by
  cases h with
  | acted hact => exact Nat.le_of_eq (attempts_of_act hact).symm
  | opened _ => exact Nat.le_refl _
  | answered other payload =>
    have hjournal : (broker.record (.answered other payload)).journal =
        broker.journal ++ [.answered other payload] := rfl
    rw [attempts_of_journal hjournal]
    exact Nat.le_add_right _ _
  | closed other =>
    cases hlive : broker.registry.get? other with
    | none => exact Nat.le_of_eq (congrArg (attempts · id) (closeSession_of_none hlive)).symm
    | some session =>
      rw [closeSession_of_some hlive, attempts_closeSink]
      exact Nat.le_add_right _ _
  | swept =>
    rw [attempts_closeLeft]
    exact Nat.le_add_right _ _

theorem attempts_le_of_deeds (h : Deeds broker after) : broker.attempts id ≤ after.attempts id := by
  induction h with
  | refl => exact Nat.le_refl _
  | tail _ hdeed ih => exact Nat.le_trans ih (attempts_le_of_deed hdeed)

/-! ### Accounts -/

/-- Each session that has left did so once, without subscriptions and told to stop, and one attempt
was made to close its connection, or one waits. -/
structure Accounted (broker : Broker) : Prop where
  dismissed : ∀ session ∈ broker.departed, session.subscriptions = [] ∧ session.cancelled = true
  once : broker.left.Nodup
  gone : ∀ id ∈ broker.left, broker.registry.get? id = none
  attempts : ∀ id, broker.attempts id + broker.closing.count id = broker.left.count id

theorem accounted_empty : Accounted {} :=
  ⟨by simp, List.nodup_nil, by simp [left], fun _ ↦ rfl⟩

/-- A live session leaves, with an attempt to close its connection, or with one that waits. -/
theorem Accounted.parted (h : Accounted broker)
    (hlive : broker.registry.get? id = some session)
    (hregistry : after.registry = (broker.registry.remove id).2)
    (hdeparted : after.departed =
      broker.departed ++ [{ session with subscriptions := [], cancelled := true }])
    (hattempts : ∀ other, after.attempts other + after.closing.count other =
      broker.attempts other + broker.closing.count other + [id].count other) :
    Accounted after := by
  have hid := Registry.id_of_get? hlive
  have hleft : after.left = broker.left ++ [id] := by
    rw [left, hdeparted, List.map_append, List.map_singleton, hid, left]
  constructor
  · intro departed hmem
    rw [hdeparted, List.mem_append, List.mem_singleton] at hmem
    rcases hmem with hmem | rfl
    · exact h.dismissed departed hmem
    · exact ⟨rfl, rfl⟩
  · have hfresh : id ∉ broker.left := by
      intro hmem
      rw [h.gone id hmem] at hlive
      cases hlive
    rw [hleft, ← List.concat_eq_append]
    exact h.once.concat hfresh
  · intro other hmem
    rw [hregistry, Registry.get?_remove]
    rw [hleft, List.mem_append, List.mem_singleton] at hmem
    rcases hmem with hmem | rfl
    · rw [h.gone other hmem, ite_self]
    · rw [if_pos rfl]
  · intro other
    rw [hattempts, h.attempts, hleft, List.count_append]

theorem Accounted.retire (h : Accounted broker) (id : SessionId) :
    Accounted (broker.retire id) := by
  cases hlive : broker.registry.get? id with
  | none =>
    rw [retire_of_none hlive]
    exact h
  | some session =>
    rw [retire_of_some hlive]
    refine h.parted hlive rfl rfl fun other ↦ ?_
    rw [List.count_append, ← Nat.add_assoc]
    rfl

theorem Accounted.closeSession (h : Accounted broker) (id : SessionId) :
    Accounted (broker.closeSession id) := by
  cases hlive : broker.registry.get? id with
  | none =>
    rw [closeSession_of_none hlive]
    exact h
  | some session =>
    rw [closeSession_of_some hlive]
    refine h.parted hlive rfl rfl fun other ↦ ?_
    rw [attempts_closeSink, Nat.add_right_comm]
    rfl

theorem registry_closeSink_foldl (broker : Broker) (ids : List SessionId) :
    (ids.foldl closeSink broker).registry = broker.registry ∧
      (ids.foldl closeSink broker).table = broker.table := by
  induction ids generalizing broker with
  | nil => exact ⟨rfl, rfl⟩
  | cons id ids ih => exact ih (broker.closeSink id)

theorem Accounted.closeLeft (h : Accounted broker) : Accounted broker.closeLeft := by
  obtain ⟨hdeparted, hclosing⟩ :=
    departed_foldl_closeSink { broker with closing := [] } broker.closing
  obtain ⟨hregistry, -⟩ := registry_closeSink_foldl { broker with closing := [] } broker.closing
  have hleft : broker.closeLeft.left = broker.left := congrArg (List.map Session.id) hdeparted
  have hnone : broker.closeLeft.closing = [] := hclosing
  refine ⟨hdeparted ▸ h.dismissed, hleft ▸ h.once, fun id hmem ↦ ?_, fun id ↦ ?_⟩
  · rw [Broker.closeLeft, hregistry]
    exact h.gone id (hleft ▸ hmem)
  · rw [attempts_closeLeft, hnone, hleft, h.attempts]
    rfl

theorem Accounted.act (h : Accounted broker) (hact : Act setting client broker after) :
    Accounted after := by
  rcases departed_of_act hact with ⟨hdeparted, hclosing⟩ | ⟨id, rfl⟩
  · have hleft : after.left = broker.left := congrArg (List.map Session.id) hdeparted
    refine ⟨hdeparted ▸ h.dismissed, hleft ▸ h.once, fun id hmem ↦ ?_, fun id ↦ ?_⟩
    · exact get?_eq_none_of_act hact (h.gone id (hleft ▸ hmem))
    · rw [attempts_of_act hact, hclosing, hleft, h.attempts]
  · exact h.retire id

theorem Accounted.deed (h : Accounted broker) (hdeed : Deed broker after) : Accounted after := by
  cases hdeed with
  | acted hact => exact h.act hact
  | @opened setting id sink hfresh =>
    refine ⟨h.dismissed, h.once, fun other hmem ↦ ?_, h.attempts⟩
    have hother : id ≠ other := by
      rintro rfl
      obtain ⟨session, hsession, hid⟩ := List.mem_map.mp hmem
      exact (session?_eq_none_iff.mp hfresh).2 session hsession hid
    exact Registry.get?_add.trans ((if_neg hother).trans (h.gone other hmem))
  | answered id payload =>
    refine ⟨h.dismissed, h.once, h.gone, fun other ↦ ?_⟩
    have hjournal : (broker.record (.answered id payload)).journal =
        broker.journal ++ [.answered id payload] := rfl
    rw [attempts_of_journal hjournal]
    exact h.attempts other
  | closed id => exact h.closeSession id
  | swept => exact h.closeLeft

theorem Accounted.deeds (h : Accounted broker) (hdeeds : Deeds broker after) :
    Accounted after := by
  induction hdeeds with
  | refl => exact h
  | tail _ hdeed ih => exact ih.deed hdeed

theorem Accounted.attempts_of_mem (h : Accounted broker) (hleft : id ∈ broker.left) :
    broker.attempts id + broker.closing.count id = 1 := by
  rw [h.attempts, List.count_eq_one_of_mem h.once hleft]

/-- Nothing waits for a session that is live. -/
theorem Accounted.not_mem_closing (h : Accounted broker)
    (hlive : broker.registry.get? id ≠ none) : id ∉ broker.closing := by
  have hstays : id ∉ broker.left := fun hmem ↦ hlive (h.gone id hmem)
  have hattempts := h.attempts id
  rw [List.count_eq_zero_of_not_mem hstays] at hattempts
  exact List.count_eq_zero.mp (Nat.eq_zero_of_add_eq_zero_left hattempts)

/-! ### Maps -/

/-- The registry and the table are the maps into sets that they stand for. -/
structure Mapped (broker : Broker) : Prop where
  registry : broker.registry.Proper
  table : Rows.Proper broker.table.destinations

theorem mapped_empty : Mapped {} := ⟨Registry.proper_empty, Rows.proper_nil⟩

theorem Mapped.detached (h : Mapped broker) (id : SessionId) : Mapped (broker.detach id).2 := by
  cases hlive : broker.registry.get? id with
  | none =>
    rw [detach_of_none hlive]
    exact h
  | some session =>
    rw [detach_of_some hlive]
    exact ⟨h.registry.remove id, SubscriptionTable.proper_filter h.table _⟩

theorem Mapped.congr (h : Mapped broker) (hregistry : after.registry = broker.registry)
    (htable : after.table = broker.table) : Mapped after :=
  ⟨hregistry ▸ h.registry, htable ▸ h.table⟩

theorem Mapped.act (h : Mapped broker) (hact : Act setting client broker after) :
    Mapped after := by
  cases hact with
  | named _ _ _ _ _ => exact ⟨h.registry.update fun _ heq ↦ heq, h.table⟩
  | bound _ _ _ hbind => exact ⟨h.registry.bind hbind, h.table⟩
  | noted _ _ hsubscribe =>
    obtain ⟨-, rfl⟩ := Session.subscribe?_eq_some_iff.mp hsubscribe
    exact ⟨h.registry.update fun _ _ ↦ rfl, h.table⟩
  | entered _ _ _ _ => exact ⟨h.registry, SubscriptionTable.proper_add h.table _ _⟩
  | dropped _ _ _ => exact ⟨h.registry.update fun _ heq ↦ heq, h.table⟩
  | removed _ _ _ => exact ⟨h.registry, SubscriptionTable.proper_filter h.table _⟩
  | replied _ _ => exact h.congr rfl rfl
  | delivered _ _ _ _ => exact h.congr rfl rfl
  | @retired id _ =>
    obtain ⟨hregistry, htable, -⟩ := books_retire broker id
    exact (h.detached id).congr hregistry htable

theorem Mapped.deed (h : Mapped broker) (hdeed : Deed broker after) : Mapped after := by
  cases hdeed with
  | acted hact => exact h.act hact
  | opened _ => exact ⟨h.registry.add _, h.table⟩
  | answered _ _ => exact h.congr rfl rfl
  | closed id =>
    obtain ⟨hregistry, htable, -⟩ := books_closeSession broker id
    exact (h.detached id).congr hregistry htable
  | swept =>
    obtain ⟨hregistry, htable⟩ :=
      registry_closeSink_foldl { broker with closing := [] } broker.closing
    exact h.congr hregistry htable

theorem Mapped.deeds (h : Mapped broker) (hdeeds : Deeds broker after) : Mapped after := by
  induction hdeeds with
  | refl => exact h
  | tail _ hdeed ih => exact ih.deed hdeed

end Broker

end StompBroker
