import StompBroker.Proofs.Session.Rows

/-!
# The table as a relation

`SubscriptionTable.entries` is the relation that a table stands for, and every operation on the
table is an operation on the relation (`mem_entries_add`, `mem_entries_filter`). What a
destination's subscribers are asked for is part of it (`mem_entries_of_mem_subscribers`).

A session keeps its own side of the relation, a map from subscription ids to destinations.
`Session.lookup_of_subscribe?` and `Session.lookup_unsubscribe` describe its changes.
-/

set_option autoImplicit false

namespace StompBroker

namespace SubscriptionTable

variable {table : SubscriptionTable} {destination key : String} {subscriber other : Subscriber}

theorem entries_eq_pairs : table.entries = Rows.pairs table.destinations :=
  rfl

theorem mem_entries_add :
    (key, other) ∈ (table.add destination subscriber).entries ↔
      (key = destination ∧ other = subscriber) ∨ (key, other) ∈ table.entries := by
  rw [entries_eq_pairs, entries_eq_pairs, add, addTo_eq_insert]
  exact Rows.mem_pairs_insert

theorem mem_entries_filter {keep : String → Subscriber → Bool} :
    (key, other) ∈ (table.filter keep).entries ↔
      (key, other) ∈ table.entries ∧ keep key other = true :=
  (shrinks_keepRow keep).mem_pairs_filterMap

theorem mem_entries_remove :
    (key, other) ∈ (table.remove destination subscriber).2.entries ↔
      (key, other) ∈ table.entries ∧ ¬(key = destination ∧ other = subscriber) := by
  rw [remove, mem_entries_filter]
  simp only [Bool.not_eq_true', Bool.and_eq_false_iff, beq_eq_false_iff_ne, ne_eq,
    Decidable.not_and_iff_not_or_not]

theorem mem_entries_removeSession {session : SessionId} :
    (key, other) ∈ (table.removeSession session).2.entries ↔
      (key, other) ∈ table.entries ∧ other.session ≠ session := by
  rw [removeSession, mem_entries_filter]
  simp

theorem mem_entries_of_mem_subscribers (h : subscriber ∈ table.subscribers key) :
    (key, subscriber) ∈ table.entries := by
  unfold subscribers at h
  cases hlookup : table.destinations.lookup key with
  | none =>
    rw [hlookup] at h
    cases h
  | some found =>
    rw [hlookup] at h
    obtain ⟨front, back, hrows, -⟩ := List.lookup_eq_some_iff.mp hlookup
    exact Rows.mem_pairs_iff.mpr ⟨(key, found), by rw [hrows]; simp, rfl, h⟩

/-- In a proper table a destination's subscribers are the entries under it. -/
theorem mem_subscribers_iff (h : Rows.Proper table.destinations) :
    subscriber ∈ table.subscribers key ↔ (key, subscriber) ∈ table.entries :=
  h.mem_lookup_iff

theorem proper_add (h : Rows.Proper table.destinations) (destination : String)
    (subscriber : Subscriber) : Rows.Proper (table.add destination subscriber).destinations := by
  rw [add, addTo_eq_insert]
  exact h.insert destination subscriber

theorem proper_filter (h : Rows.Proper table.destinations)
    (keep : String → Subscriber → Bool) : Rows.Proper (table.filter keep).destinations :=
  h.filterMap (shrinks_keepRow keep)

theorem length_entries : table.entries.length = table.subscriptionCount := by
  simp only [entries, subscriptionCount, List.length_flatMap, List.length_map]

end SubscriptionTable

/-! ### The map of one session -/

namespace Session

variable {session subscribed : Session} {subscription destination other : String}

theorem subscribe?_eq_some_iff :
    session.subscribe? subscription destination = some subscribed ↔
      session.subscriptions.lookup subscription = none ∧
        { session with
          subscriptions := session.subscriptions ++ [(subscription, destination)] } =
          subscribed := by
  unfold subscribe?
  cases hlookup : session.subscriptions.lookup subscription <;> simp

theorem lookup_of_subscribe? (h : session.subscribe? subscription destination = some subscribed) :
    subscribed.subscriptions.lookup other =
      if subscription = other then some destination else session.subscriptions.lookup other := by
  obtain ⟨hnone, rfl⟩ := subscribe?_eq_some_iff.mp h
  simp only [List.lookup_append, Rows.lookup_cons, List.lookup_nil]
  by_cases hother : subscription = other
  · rw [← hother, hnone, if_pos rfl, Option.none_or]
  · rw [if_neg hother, if_neg hother, Option.or_none]

theorem lookup_unsubscribe :
    (session.unsubscribe subscription).subscriptions.lookup other =
      if subscription = other then none else session.subscriptions.lookup other :=
  Rows.lookup_filter_ne session.subscriptions

theorem nodup_of_subscribe? (h : (session.subscriptions.map Prod.fst).Nodup)
    (hsubscribe : session.subscribe? subscription destination = some subscribed) :
    (subscribed.subscriptions.map Prod.fst).Nodup := by
  obtain ⟨hfree, rfl⟩ := subscribe?_eq_some_iff.mp hsubscribe
  have hfresh : subscription ∉ session.subscriptions.map Prod.fst := by
    intro hmem
    obtain ⟨entry, hentry, rfl⟩ := List.mem_map.mp hmem
    have hne := List.lookup_eq_none_iff.mp hfree entry hentry
    simp at hne
  have hconcat := h.concat hfresh
  rw [List.concat_eq_append] at hconcat
  rw [List.map_append]
  exact hconcat

theorem nodup_unsubscribe (h : (session.subscriptions.map Prod.fst).Nodup)
    (subscription : String) :
    ((session.unsubscribe subscription).subscriptions.map Prod.fst).Nodup :=
  h.sublist (List.filter_sublist.map Prod.fst)

end Session

end StompBroker
