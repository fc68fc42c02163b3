import Mathlib.Algebra.GroupWithZero.Nat
import StompBroker.Proofs.Broker.Written

/-!
# One relation, kept twice

The table holds the subscriptions by destination, and each session holds its own by subscription id.
A broker is `Proper` if all of its lists are the maps and sets that they stand for: ids of sessions,
names of users, destinations and subscription ids occur once each, no row is empty, and sessions
subscribe under keys of the table only. Changes and output keep that (`Proper.change`,
`Proper.output`).

In a broker that is proper and consistent the entries of the table are those of the sessions' own
maps, each of them as often as there, which is once (`entries_perm_owned`). So the two sides of a
reachable broker are `Mirrored` (`mirrored_of_reachable`).
-/

set_option autoImplicit false

namespace StompBroker

/-- A session's own map holds no subscription id twice, and only keys of the table. -/
structure Session.Proper (session : Session) : Prop where
  names : (session.subscriptions.map Prod.fst).Nodup
  keys : ∀ entry ∈ session.subscriptions, Destination.IsKey entry.2

namespace Broker

variable {setting : Setting} {operation : Operation} {origin broker after : Broker}

/-- The lists of a broker are the maps and sets that they stand for. -/
structure Proper (broker : Broker) : Prop where
  registry : broker.registry.Proper
  table : Rows.Proper broker.table.destinations
  sessions : ∀ id session, broker.registry.get? id = some session → session.Proper

theorem proper_empty : Proper {} :=
  ⟨Registry.proper_empty, Rows.proper_nil, by simp [Registry.get?]⟩

/-! ### Sessions -/

theorem isKey_of_subscriptionKey? {username destination key : String}
    (h : subscriptionKey? username destination = some key) : Destination.IsKey key := by
  rcases subscriptionKey?_eq_some_iff.mp h with ⟨hshared, rfl⟩ | hparse
  · exact hshared
  · obtain ⟨-, -, queue, hqueue, -, rfl⟩ := Destination.parse_eq_userScoped_iff.mp hparse
    exact Destination.isKey_userQueue hqueue

theorem properSession_subscribe? {session subscribed : Session}
    {username destination subscription key : String} (h : session.Proper)
    (hkey : subscriptionKey? username destination = some key)
    (hsubscribe : session.subscribe? subscription key = some subscribed) : subscribed.Proper := by
  refine ⟨Session.nodup_of_subscribe? h.names hsubscribe, fun entry hentry ↦ ?_⟩
  obtain ⟨-, rfl⟩ := Session.subscribe?_eq_some_iff.mp hsubscribe
  rcases List.mem_append.mp hentry with hold | hnew
  · exact h.keys entry hold
  · obtain rfl := List.mem_singleton.mp hnew
    exact isKey_of_subscriptionKey? hkey

theorem properSession_unsubscribe {session : Session} (h : session.Proper)
    (subscription : String) : (session.unsubscribe subscription).Proper :=
  ⟨Session.nodup_unsubscribe h.names subscription,
    fun entry hentry ↦ h.keys entry (List.mem_of_mem_filter hentry)⟩

/-! ### Changes and output -/

theorem Proper.registry_change (h : Proper broker)
    (hchange : Change setting operation broker after) : after.registry.Proper := by
  cases hchange with
  | none => exact h.registry
  | opened _ _ => exact h.registry.add _
  | enrolled _ _ _ _ _ _ _ henrol =>
    obtain ⟨registry, hbind, rfl⟩ := enrol_eq_ok_iff.mp henrol
    refine Registry.Proper.bind ?_ hbind
    exact h.registry.update fun _ hid ↦ hid
  | subscribed _ _ _ _ _ _ hsubscribe =>
    obtain ⟨-, rfl⟩ := Session.subscribe?_eq_some_iff.mp hsubscribe
    exact h.registry.update fun _ _ ↦ rfl
  | unsubscribed _ _ _ _ _ => exact h.registry.update fun _ hid ↦ hid

theorem Proper.table_change (h : Proper broker)
    (hchange : Change setting operation broker after) : Rows.Proper after.table.destinations := by
  cases hchange with
  | none => exact h.table
  | opened _ _ => exact h.table
  | enrolled _ _ _ _ _ _ _ henrol =>
    obtain ⟨registry, -, rfl⟩ := enrol_eq_ok_iff.mp henrol
    exact h.table
  | subscribed _ _ _ _ _ _ _ => exact SubscriptionTable.proper_add h.table _ _
  | unsubscribed _ _ _ _ _ => exact SubscriptionTable.proper_filter h.table _

theorem Proper.change (h : Proper broker) (hchange : Change setting operation broker after) :
    Proper after := by
  refine ⟨h.registry_change hchange, h.table_change hchange, fun id session hlive ↦ ?_⟩
  obtain rfl := Registry.id_of_get? hlive
  cases recorded_of_change hchange hlive with
  | kept hbefore => exact h.sessions _ _ hbefore
  | opened _ hsession =>
    rw [← hsession]
    exact ⟨List.nodup_nil, by simp⟩
  | enrolled hbefore _ _ _ hsession =>
    rw [← hsession]
    exact ⟨(h.sessions _ _ hbefore).names, (h.sessions _ _ hbefore).keys⟩
  | subscribed hbefore _ _ _ hkey hsubscribe =>
    exact properSession_subscribe? (h.sessions _ _ hbefore) hkey hsubscribe
  | unsubscribed hbefore _ hsession =>
    rw [← hsession]
    exact properSession_unsubscribe (h.sessions _ _ hbefore) _

theorem Proper.output (h : Proper broker)
    (houtput : Output setting operation origin broker after) : Proper after := by
  have hsessions : ∀ id session, after.registry.get? id = some session → session.Proper :=
    fun id session hlive ↦ h.sessions id session (get?_of_output houtput hlive)
  rcases books_of_output houtput with ⟨hregistry, htable, -⟩ | ⟨id, rfl⟩
  · exact ⟨hregistry ▸ h.registry, htable ▸ h.table, hsessions⟩
  · cases hget : broker.registry.get? id with
    | none =>
      rw [detach_of_none hget]
      exact h
    | some session =>
      rw [detach_of_some hget] at hsessions ⊢
      exact ⟨h.registry.remove id, SubscriptionTable.proper_filter h.table _, hsessions⟩

theorem Proper.run (h : Proper broker) (hfresh : operation.Fresh broker) :
    Proper (broker.run setting operation) :=
  invariant_run hfresh (fun hchange ↦ h.change hchange) fun hproper houtput ↦
    hproper.output houtput

theorem Reachable.proper {allowed : Setting → Broker → Operation → Prop}
    (h : Reachable allowed broker) : Proper broker :=
  h.invariant proper_empty (fun _ _ hproper hchange ↦ hproper.change hchange)
    fun hproper houtput ↦ hproper.output houtput

/-! ### The two sides -/

/-- The entries of the table as the sessions' own maps have them. -/
def owned (registry : Registry) : List (String × Subscriber) :=
  registry.sessions.flatMap fun session ↦
    session.subscriptions.map fun entry ↦ (entry.2, ⟨session.id, entry.1⟩)

theorem mem_owned_iff {registry : Registry} {key subscription : String} {id : SessionId} :
    (key, ⟨id, subscription⟩) ∈ owned registry ↔
      ∃ session ∈ registry.sessions, session.id = id ∧
        (subscription, key) ∈ session.subscriptions := by
  simp only [owned, List.mem_flatMap, List.mem_map, Prod.mk.injEq, Subscriber.mk.injEq]
  constructor
  · rintro ⟨session, hsession, ⟨name, destination⟩, hentry, rfl, hid, rfl⟩
    exact ⟨session, hsession, hid, hentry⟩
  · rintro ⟨session, hsession, hid, hentry⟩
    exact ⟨session, hsession, (subscription, key), hentry, rfl, hid, rfl⟩

theorem Proper.nodup_owned (h : Proper broker) :
    ((owned broker.registry).map Prod.snd).Nodup := by
  have hids : broker.registry.sessions.Pairwise fun session later ↦ session.id ≠ later.id :=
    List.pairwise_map.mp h.registry.ids
  rw [owned, List.map_flatMap, List.nodup_flatMap]
  refine ⟨fun session hmem ↦ ?_, hids.imp fun {session later} hne ↦ ?_⟩
  · have hnames := (h.sessions _ _ (h.registry.mem_sessions_iff.mp hmem)).names
    have hsubscribers : (session.subscriptions.map Prod.fst).map (Subscriber.mk session.id) =
        (session.subscriptions.map fun entry ↦
          ((entry.2, ⟨session.id, entry.1⟩) : String × Subscriber)).map Prod.snd := by
      rw [List.map_map, List.map_map]
      rfl
    rw [← hsubscribers]
    exact hnames.map fun _ _ heq ↦ (Subscriber.mk.inj heq).2
  · rw [Function.onFun_apply, List.disjoint_left]
    intro subscriber hsession hlater
    simp only [List.map_map, List.mem_map, Function.comp_apply] at hsession hlater
    obtain ⟨_, _, rfl⟩ := hsession
    obtain ⟨_, _, heq⟩ := hlater
    exact hne (Subscriber.mk.inj heq).1.symm

/-- The table holds what the sessions' own maps hold, and nothing twice. -/
theorem entries_perm_owned (hconsistent : Consistent broker) (hproper : Proper broker) :
    broker.table.entries.Perm (owned broker.registry) := by
  refine (List.perm_ext_iff_of_nodup hproper.table.nodup_pairs
    (.of_map Prod.snd hproper.nodup_owned)).mpr ?_
  rintro ⟨key, ⟨id, subscription⟩⟩
  have hentry := hconsistent.entries key id subscription
  rw [SubscriptionTable.entries_eq_pairs] at hentry
  rw [hentry, mem_owned_iff]
  constructor
  · rintro ⟨session, hlive, hlookup⟩
    obtain rfl := Registry.id_of_get? hlive
    have hnames := (hproper.sessions _ _ hlive).names
    exact ⟨session, hproper.registry.mem_sessions_iff.mpr hlive, rfl,
      (Rows.lookup_eq_some_iff_mem hnames).mp hlookup⟩
  · rintro ⟨session, hmem, rfl, hsubscription⟩
    have hlive := hproper.registry.mem_sessions_iff.mp hmem
    have hnames := (hproper.sessions _ _ hlive).names
    exact ⟨session, hlive, (Rows.lookup_eq_some_iff_mem hnames).mpr hsubscription⟩

/-- The table and the sessions' own maps describe one relation. -/
structure Mirrored (broker : Broker) : Prop where
  subscribed_iff : ∀ key id subscription,
    ⟨id, subscription⟩ ∈ broker.table.subscribers key ↔
      ∃ session, broker.registry.get? id = some session ∧ session.authenticated = true ∧
        session.subscriptions.lookup subscription = some key
  /-- There is at most one entry for a subscription id of a session, whatever its destination. -/
  once : (broker.table.entries.map Prod.snd).Nodup
  destinations : (broker.table.destinations.map Prod.fst).Nodup
  filled : ∀ row ∈ broker.table.destinations, row.2 ≠ []
  counted : broker.table.subscriptionCount =
    (broker.registry.sessions.map fun session ↦ session.subscriptions.length).sum
  keys : ∀ row ∈ broker.table.destinations, Destination.IsKey row.1

/-- Only authenticated sessions have subscriptions. -/
theorem Consistent.authenticated_of_lookup (h : Consistent broker) {id : SessionId}
    {session : Session} {subscription key : String}
    (hlive : broker.registry.get? id = some session)
    (hlookup : session.subscriptions.lookup subscription = some key) :
    session.authenticated = true := by
  by_contra hnew
  have hempty := h.unauthenticated id session hlive (by simpa using hnew)
  rw [hempty] at hlookup
  cases hlookup

/-- Every row of the table has an entry, and sessions subscribe under keys only. -/
theorem isKey_of_mem_destinations (hconsistent : Consistent broker) (hproper : Proper broker)
    {row : String × List Subscriber} (hrow : row ∈ broker.table.destinations) :
    Destination.IsKey row.1 := by
  obtain ⟨⟨id, subscription⟩, hsubscriber⟩ := List.exists_mem_of_ne_nil _
    (hproper.table.filled row hrow)
  have hentry : (row.1, ⟨id, subscription⟩) ∈ broker.table.entries :=
    Rows.mem_pairs_iff.mpr ⟨row, hrow, rfl, hsubscriber⟩
  obtain ⟨session, hlive, hlookup⟩ := (hconsistent.entries _ _ _).mp hentry
  have hsession := hproper.sessions _ _ hlive
  exact hsession.keys _ ((Rows.lookup_eq_some_iff_mem hsession.names).mp hlookup)

/-- Whatever was asked of the broker and whatever its sinks did, the table and the sessions' own
maps are one relation. -/
theorem mirrored_of_reachable {allowed : Setting → Broker → Operation → Prop}
    (h : Reachable allowed broker) : Mirrored broker := by
  have hconsistent := h.consistent
  have hproper := h.proper
  have hperm := entries_perm_owned hconsistent hproper
  refine ⟨fun key id subscription ↦ ?_, ?_, hproper.table.names, hproper.table.filled, ?_, ?_⟩
  · rw [SubscriptionTable.mem_subscribers_iff hproper.table, hconsistent.entries]
    constructor
    · rintro ⟨session, hlive, hlookup⟩
      exact ⟨session, hlive, hconsistent.authenticated_of_lookup hlive hlookup, hlookup⟩
    · rintro ⟨session, hlive, -, hlookup⟩
      exact ⟨session, hlive, hlookup⟩
  · exact (hperm.map Prod.snd).nodup_iff.mpr hproper.nodup_owned
  · rw [← SubscriptionTable.length_entries, hperm.length_eq, owned, List.length_flatMap]
    simp only [List.length_map]
  · exact fun row hrow ↦ isKey_of_mem_destinations hconsistent hproper hrow

/-- Two sessions of one user, of which one has subscribed. -/
theorem mirrored_of_reachable_prepared :
    Reachable FromWire Forgery.prepared ∧ Mirrored Forgery.prepared ∧
      Forgery.prepared.table.entries = [("/topic/x", ⟨Forgery.receiver, "0"⟩)] :=
  ⟨Forgery.reachable_prepared, mirrored_of_reachable Forgery.reachable_prepared, rfl⟩

end Broker

end StompBroker
