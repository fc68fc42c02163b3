import Mathlib.Data.List.Dedup
import Mathlib.Data.Prod.Lex
import Mathlib.Data.String.Basic
import StompBroker.Proofs.Broker.Subscriptions

/-!
# Who is on line

The registry finds sessions by id and by user. In a reachable broker both ways agree (`Indexed`):
the row of a user holds the ids of the authenticated sessions under that name, and there are no rows
but those. The listing of users on line then holds every authenticated session once.

The listing is ordered by the instant at which a session was opened and by the text of its id, which
is its `OnlineUser.key`. No two sessions have the same key, so the order in which the listing is
collected leaves no trace (`mergeSort_eq_onlineUsers`).
-/

set_option autoImplicit false

namespace StompBroker

theorem SessionId.text_inj {left right : SessionId} : left.text = right.text ↔ left = right := by
  cases left
  cases right
  simp

/-- An authenticated session as the listing has it. -/
def Session.online (session : Session) : OnlineUser :=
  { username := session.username, session := session.id, connectTime := session.connectTime }

/-- What the listing is ordered by. -/
def OnlineUser.key (user : OnlineUser) : Int ×ₗ String :=
  toLex (user.connectTime, user.session.text)

namespace Registry

variable {registry : Registry} {id : SessionId} {username : String}

/-- The listing as it is collected, row by row. -/
def listing (registry : Registry) : List OnlineUser :=
  (Rows.pairs registry.users).filterMap fun pair ↦
    (registry.get? pair.2).map fun session ↦
      { username := pair.1, session := session.id, connectTime := session.connectTime }

theorem onlineUsers_eq_mergeSort :
    registry.onlineUsers = registry.listing.mergeSort listedBefore := by
  unfold onlineUsers listing Rows.pairs getMany
  rw [List.filterMap_flatMap]
  simp only [List.filterMap_map, List.map_filterMap]
  rfl

theorem onlineUsers_perm : registry.onlineUsers.Perm registry.listing := by
  rw [onlineUsers_eq_mergeSort]
  exact List.mergeSort_perm _ _

/-! ### The two ways to a session -/

/-- Rows hold the ids of the authenticated sessions under their users. -/
def Bound (registry : Registry) : Prop :=
  ∀ username id, registry.Listed username id ↔
    ∃ session, registry.get? id = some session ∧ session.authenticated = true ∧
      session.username = username

theorem Bound.mem_listing_iff (h : registry.Bound) {user : OnlineUser} :
    user ∈ registry.listing ↔
      ∃ session, registry.get? session.id = some session ∧ session.authenticated = true ∧
        session.online = user := by
  simp only [listing, List.mem_filterMap, Option.map_eq_some_iff, Prod.exists]
  constructor
  · rintro ⟨username, id, hpair, session, hlive, rfl⟩
    obtain ⟨found, hfound, hauthenticated, rfl⟩ :=
      (h username id).mp (listed_iff_mem_pairs.mpr hpair)
    rw [hlive] at hfound
    cases hfound
    obtain rfl := id_of_get? hlive
    exact ⟨session, hlive, hauthenticated, rfl⟩
  · rintro ⟨session, hlive, hauthenticated, rfl⟩
    have hlisted := (h session.username session.id).mpr ⟨session, hlive, hauthenticated, rfl⟩
    exact ⟨session.username, session.id, listed_iff_mem_pairs.mp hlisted, session, hlive, rfl⟩

theorem Proper.nodup_listing (h : registry.Proper) : registry.listing.Nodup := by
  refine h.users.nodup_pairs.filterMap ?_
  rintro ⟨username, id⟩ ⟨other, otherId⟩ user huser hother
  obtain ⟨session, hlive, rfl⟩ := Option.map_eq_some_iff.mp huser
  obtain ⟨found, hfound, heq⟩ := Option.map_eq_some_iff.mp hother
  obtain rfl := id_of_get? hlive
  obtain rfl := id_of_get? hfound
  rw [OnlineUser.mk.injEq] at heq
  exact Prod.ext heq.1.symm heq.2.1.symm

theorem Proper.nodup_ids_online (h : registry.Proper) :
    (((registry.sessions.filter (·.authenticated)).map Session.online).map
      OnlineUser.session).Nodup := by
  rw [List.map_map]
  exact h.ids.sublist (List.filter_sublist.map _)

/-- The listing holds every authenticated session once. -/
theorem Bound.onlineUsers_perm_online (h : registry.Bound) (hproper : registry.Proper) :
    registry.onlineUsers.Perm
      ((registry.sessions.filter (·.authenticated)).map Session.online) := by
  refine onlineUsers_perm.trans ((List.perm_ext_iff_of_nodup hproper.nodup_listing
    (.of_map OnlineUser.session hproper.nodup_ids_online)).mpr fun user ↦ ?_)
  rw [h.mem_listing_iff, List.mem_map]
  constructor
  · rintro ⟨session, hlive, hauthenticated, rfl⟩
    have hmem := hproper.mem_sessions_iff.mpr hlive
    exact ⟨session, List.mem_filter.mpr ⟨hmem, hauthenticated⟩, rfl⟩
  · rintro ⟨session, hmem, rfl⟩
    obtain ⟨hsession, hauthenticated⟩ := List.mem_filter.mp hmem
    exact ⟨session, hproper.mem_sessions_iff.mp hsession, hauthenticated, rfl⟩

/-! ### The order of the listing -/

theorem listedBefore_iff {left right : OnlineUser} :
    listedBefore left right = true ↔
      toLex (left.key, left.username) ≤ toLex (right.key, right.username) := by
  rw [Prod.Lex.toLex_le_toLex, OnlineUser.key, OnlineUser.key, Prod.Lex.toLex_lt_toLex,
    EmbeddingLike.apply_eq_iff_eq, Prod.mk.injEq]
  unfold listedBefore
  by_cases htime : left.connectTime = right.connectTime
  · by_cases hid : left.session.text = right.session.text
    · simp [htime, ← SessionId.text_inj, hid]
    · simp [htime, ← SessionId.text_inj, hid]
  · simp [htime]

theorem pairwise_listedBefore :
    registry.onlineUsers.Pairwise fun earlier later ↦ listedBefore earlier later = true := by
  rw [onlineUsers_eq_mergeSort]
  refine List.pairwise_mergeSort (fun first second third hfirst hsecond ↦ ?_)
    (fun left right ↦ ?_) _
  · rw [listedBefore_iff] at *
    exact hfirst.trans hsecond
  · rw [Bool.or_eq_true, listedBefore_iff, listedBefore_iff]
    exact le_total _ _

theorem session_eq_of_key_eq {left right : OnlineUser} (h : left.key = right.key) :
    left.session = right.session := by
  rw [OnlineUser.key, OnlineUser.key, EmbeddingLike.apply_eq_iff_eq, Prod.mk.injEq] at h
  exact SessionId.text_inj.mp h.2

theorem Bound.nodup_ids_onlineUsers (h : registry.Bound) (hproper : registry.Proper) :
    (registry.onlineUsers.map OnlineUser.session).Nodup :=
  ((h.onlineUsers_perm_online hproper).map _).nodup_iff.mpr hproper.nodup_ids_online

/-- Keys rise along the listing. -/
theorem Bound.pairwise_key_lt (h : registry.Bound) (hproper : registry.Proper) :
    registry.onlineUsers.Pairwise fun earlier later ↦ earlier.key < later.key := by
  have hids : registry.onlineUsers.Pairwise fun earlier later ↦ earlier.session ≠ later.session :=
    List.pairwise_map.mp (h.nodup_ids_onlineUsers hproper)
  refine (pairwise_listedBefore.and hids).imp fun {earlier later} hboth ↦ ?_
  obtain ⟨hbefore, hne⟩ := hboth
  rcases Prod.Lex.toLex_le_toLex.mp (listedBefore_iff.mp hbefore) with hlt | ⟨heq, -⟩
  · exact hlt
  · exact absurd (session_eq_of_key_eq heq) hne

/-- Sorted by its keys alone the listing is the same, in whatever order it was collected. -/
theorem Bound.mergeSort_eq_onlineUsers (h : registry.Bound) (hproper : registry.Proper)
    {collected : List OnlineUser}
    (hcollected : collected.Perm
      ((registry.sessions.filter (·.authenticated)).map Session.online)) :
    (collected.mergeSort fun left right ↦ left.key ≤ right.key) = registry.onlineUsers := by
  have hperm : (collected.mergeSort fun left right ↦ left.key ≤ right.key).Perm
      registry.onlineUsers :=
    (List.mergeSort_perm _ _).trans
      (hcollected.trans (h.onlineUsers_perm_online hproper).symm)
  have hsorted : (collected.mergeSort fun left right ↦ left.key ≤ right.key).Pairwise
      fun left right ↦ decide (left.key ≤ right.key) = true := by
    refine List.pairwise_mergeSort (fun first second third hfirst hsecond ↦ ?_)
      (fun left right ↦ ?_) collected
    · rw [decide_eq_true_iff] at *
      exact hfirst.trans hsecond
    · rw [Bool.or_eq_true, decide_eq_true_iff, decide_eq_true_iff]
      exact le_total _ _
  have hlisted := (h.pairwise_key_lt hproper).imp fun {earlier later} hlt ↦
    decide_eq_true (p := earlier.key ≤ later.key) hlt.le
  refine List.Perm.eq_of_pairwise (fun left right hleft hright hle hge ↦ ?_) hsorted hlisted hperm
  have hkey := le_antisymm (of_decide_eq_true hle) (of_decide_eq_true hge)
  exact List.inj_on_of_nodup_map (h.nodup_ids_onlineUsers hproper) (hperm.subset hleft) hright
    (session_eq_of_key_eq hkey)

/-! ### What the listing tells of users -/

theorem Bound.mem_onlineUsers_iff (h : registry.Bound) {user : OnlineUser} :
    user ∈ registry.onlineUsers ↔
      ∃ session, registry.get? session.id = some session ∧ session.authenticated = true ∧
        session.online = user := by
  rw [onlineUsers_perm.mem_iff, h.mem_listing_iff]

/-- The rows of the registry are the users in the listing. -/
theorem Bound.users_perm_dedup (h : registry.Bound) (hproper : registry.Proper) :
    (registry.users.map Prod.fst).Perm (registry.onlineUsers.map OnlineUser.username).dedup := by
  refine (List.perm_ext_iff_of_nodup hproper.users.names (List.nodup_dedup _)).mpr fun username ↦ ?_
  rw [List.mem_dedup, List.mem_map, List.mem_map]
  constructor
  · rintro ⟨row, hrow, rfl⟩
    obtain ⟨id, hid⟩ := List.exists_mem_of_ne_nil _ (hproper.users.filled row hrow)
    obtain ⟨session, hlive, hauthenticated, hname⟩ := (h row.1 id).mp ⟨row, hrow, rfl, hid⟩
    obtain rfl := id_of_get? hlive
    exact ⟨session.online, h.mem_onlineUsers_iff.mpr ⟨session, hlive, hauthenticated, rfl⟩, hname⟩
  · rintro ⟨user, huser, rfl⟩
    obtain ⟨session, hlive, hauthenticated, rfl⟩ := h.mem_onlineUsers_iff.mp huser
    obtain ⟨row, hrow, hname, -⟩ := (h _ _).mpr ⟨session, hlive, hauthenticated, rfl⟩
    exact ⟨row, hrow, hname⟩

theorem Bound.mem_sessionsFor_iff (h : registry.Bound) (hproper : registry.Proper)
    {session : Session} :
    session ∈ registry.sessionsFor username ↔
      registry.get? session.id = some session ∧ session.authenticated = true ∧
        session.username = username := by
  constructor
  · intro hmem
    obtain ⟨hlive, hlisted⟩ := listed_of_mem_sessionsFor hmem
    obtain ⟨found, hfound, hauthenticated, hname⟩ := (h _ _).mp hlisted
    rw [hlive] at hfound
    cases hfound
    exact ⟨hlive, hauthenticated, hname⟩
  · rintro ⟨hlive, hauthenticated, rfl⟩
    have hlisted := (h _ _).mpr ⟨session, hlive, hauthenticated, rfl⟩
    refine List.mem_filterMap.mpr ⟨session.id, ?_, hlive⟩
    exact hproper.users.mem_lookup_iff.mpr (listed_iff_mem_pairs.mp hlisted)

/-- A session that is found under a user is found there once. -/
theorem Proper.nodup_sessionsFor (h : registry.Proper) :
    (registry.sessionsFor username).Nodup := by
  refine h.users.nodup_lookup.filterMap fun id other session hsession hother ↦ ?_
  rw [← id_of_get? hsession, ← id_of_get? hother]

/-- The sessions under a user are what the listing has under that name. -/
theorem Bound.sessionsFor_perm_filter (h : registry.Bound) (hproper : registry.Proper) :
    ((registry.sessionsFor username).map Session.online).Perm
      (registry.onlineUsers.filter (·.username = username)) := by
  have hnodup : registry.onlineUsers.Nodup :=
    .of_map OnlineUser.session (h.nodup_ids_onlineUsers hproper)
  have hsessions : ((registry.sessionsFor username).map Session.online).Nodup := by
    refine hproper.nodup_sessionsFor.map_on fun session hsession other hother heq ↦ ?_
    obtain ⟨hlive, -⟩ := (h.mem_sessionsFor_iff hproper).mp hsession
    obtain ⟨hfound, -⟩ := (h.mem_sessionsFor_iff hproper).mp hother
    have hid : session.id = other.id := congrArg OnlineUser.session heq
    rw [hid, hfound] at hlive
    exact (Option.some.inj hlive).symm
  refine (List.perm_ext_iff_of_nodup hsessions (hnodup.filter _)).mpr fun user ↦ ?_
  rw [List.mem_map, List.mem_filter, h.mem_onlineUsers_iff, decide_eq_true_iff]
  constructor
  · rintro ⟨session, hsession, rfl⟩
    obtain ⟨hlive, hauthenticated, hname⟩ := (h.mem_sessionsFor_iff hproper).mp hsession
    exact ⟨⟨session, hlive, hauthenticated, rfl⟩, hname⟩
  · rintro ⟨⟨session, hlive, hauthenticated, rfl⟩, hname⟩
    exact ⟨session, (h.mem_sessionsFor_iff hproper).mpr ⟨hlive, hauthenticated, hname⟩, rfl⟩

end Registry

/-! ### The registry of a reachable broker -/

namespace Broker

/-- The registry finds the same sessions by id and by user. -/
structure Indexed (registry : Registry) : Prop where
  listed_iff : ∀ username id,
    id ∈ (registry.users.lookup username).getD [] ↔
      ∃ session, registry.get? id = some session ∧ session.authenticated = true ∧
        session.username = username
  users : (registry.users.map Prod.fst).Nodup
  filled : ∀ row ∈ registry.users, row.2 ≠ []
  ids : (registry.sessions.map Session.id).Nodup
  /-- The listing holds every authenticated session once, under its own user. -/
  online : registry.onlineUsers.Perm
    ((registry.sessions.filter (·.authenticated)).map Session.online)
  rising : registry.onlineUsers.Pairwise fun earlier later ↦ earlier.key < later.key
  /-- In whatever order the sessions are collected, sorting them gives the listing. -/
  sorted : ∀ collected : List OnlineUser,
    collected.Perm ((registry.sessions.filter (·.authenticated)).map Session.online) →
      (collected.mergeSort fun left right ↦ left.key ≤ right.key) = registry.onlineUsers
  count : registry.onlineCount = (registry.onlineUsers.map OnlineUser.username).dedup.length
  sessionsFor : ∀ username,
    ((registry.sessionsFor username).map Session.online).Perm
      (registry.onlineUsers.filter (·.username = username))

/-- Whatever was asked of the broker and whatever its sinks did, its registry is indexed. -/
theorem indexed_of_reachable {allowed : Setting → Broker → Operation → Prop} {broker : Broker}
    (h : Reachable allowed broker) : Indexed broker.registry := by
  have hproper := h.proper.registry
  have hbound : broker.registry.Bound := h.consistent.listed
  refine ⟨fun username id ↦ ?_, hproper.users.names, hproper.users.filled, hproper.ids,
    hbound.onlineUsers_perm_online hproper, hbound.pairwise_key_lt hproper,
    fun collected hcollected ↦ hbound.mergeSort_eq_onlineUsers hproper hcollected, ?_,
    fun username ↦ hbound.sessionsFor_perm_filter hproper⟩
  · rw [hproper.users.mem_lookup_iff, ← Registry.listed_iff_mem_pairs]
    exact hbound username id
  · rw [← (hbound.users_perm_dedup hproper).length_eq, List.length_map]
    rfl

/-- Two sessions, and one user. -/
theorem indexed_of_reachable_prepared :
    Reachable FromWire Forgery.prepared ∧ Indexed Forgery.prepared.registry ∧
      Forgery.prepared.registry.size = 2 ∧ Forgery.prepared.registry.onlineCount = 1 :=
  ⟨Forgery.reachable_prepared, indexed_of_reachable Forgery.reachable_prepared, rfl, rfl⟩

end Broker

end StompBroker
