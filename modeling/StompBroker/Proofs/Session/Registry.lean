import StompBroker.Proofs.Session.Rows

/-!
# The two sides of the registry

`Registry.get?` reads the live sessions by id, and `Registry.Listed` says that an id stands in the
row of a user. Each operation is described by what it does to the one and to the other: adding and
changing a session leave the rows alone, binding leaves the sessions alone, and removing a session
takes its id out of the row of the user whose name it carries. All of them keep a registry `Proper`:
no id has two sessions, and the rows of users are a map into sets that are not empty.
-/

set_option autoImplicit false

namespace StompBroker.Registry

variable {registry : Registry} {session : Session} {id other : SessionId} {username : String}

/-- An id stands in a row of a user. -/
def Listed (registry : Registry) (username : String) (id : SessionId) : Prop :=
  ∃ row ∈ registry.users, row.1 = username ∧ id ∈ row.2

/-! ### Sessions by id -/

theorem id_of_get? (h : registry.get? id = some session) : session.id = id := by
  simpa using List.find?_some h

theorem find?_cons_id (kept : Session) (sessions : List Session) :
    (kept :: sessions).find? (fun session ↦ session.id == id) =
      if kept.id = id then some kept else sessions.find? fun session ↦ session.id == id := by
  by_cases hid : kept.id = id
  · rw [if_pos hid, List.find?_cons_of_pos (by simpa using hid)]
  · rw [if_neg hid, List.find?_cons_of_neg (by simpa using hid)]

/-- A session is found under its id once it is put into the list. -/
theorem find?_put (sessions : List Session) :
    (put session sessions).find? (fun kept ↦ kept.id == id) =
      if session.id = id then some session else sessions.find? fun kept ↦ kept.id == id := by
  induction sessions with
  | nil => exact find?_cons_id session []
  | cons kept sessions ih =>
    rw [put]
    by_cases hkept : kept.id = session.id
    · rw [if_pos hkept, find?_cons_id, find?_cons_id, hkept]
      by_cases hid : session.id = id
      · rw [if_pos hid, if_pos hid]
      · rw [if_neg hid, if_neg hid, if_neg hid]
    · rw [if_neg hkept, find?_cons_id, find?_cons_id, ih]
      by_cases hfound : kept.id = id
      · have hid : session.id ≠ id := fun heq ↦ hkept (hfound.trans heq.symm)
        rw [if_pos hfound, if_neg hid, if_pos hfound]
      · rw [if_neg hfound, if_neg hfound]

theorem get?_add : (registry.add session).get? id =
    if session.id = id then some session else registry.get? id :=
  find?_put registry.sessions

/-- A change that keeps the id changes the session of that id only. -/
theorem get?_update {change : Session → Session}
    (hchange : ∀ session : Session, session.id = id → (change session).id = id) :
    (registry.update id change).get? other =
      if id = other then (registry.get? id).map change else registry.get? other := by
  unfold get? update
  simp only
  induction registry.sessions with
  | nil => simp
  | cons kept sessions ih =>
    rw [List.map_cons, find?_cons_id, find?_cons_id, find?_cons_id, ih]
    by_cases hkept : kept.id = id
    · rw [if_pos hkept, if_pos hkept, hchange kept hkept, hkept]
      by_cases hid : id = other
      · rw [if_pos hid, if_pos hid, Option.map_some]
      · rw [if_neg hid, if_neg hid, if_neg hid, if_neg hid]
    · rw [if_neg hkept, if_neg hkept]
      by_cases hother : kept.id = other
      · have hid : id ≠ other := fun heq ↦ hkept (hother.trans heq.symm)
        rw [if_pos hother, if_neg hid, if_pos hother]
      · rw [if_neg hother, if_neg hother]

theorem get?_update_self {change : Session → Session}
    (hchange : ∀ session : Session, session.id = id → (change session).id = id)
    (h : registry.get? id = some session) :
    (registry.update id change).get? id = some (change session) := by
  rw [get?_update hchange, if_pos rfl, h, Option.map_some]

/-- A change takes no session out. -/
theorem get?_update_eq_none_iff {change : Session → Session}
    (hchange : ∀ session : Session, session.id = id → (change session).id = id) :
    (registry.update id change).get? other = none ↔ registry.get? other = none := by
  rw [get?_update hchange]
  by_cases hid : id = other
  · rw [if_pos hid, Option.map_eq_none_iff, hid]
  · rw [if_neg hid]

/-- Binding answers with the same sessions. -/
theorem get?_of_bind {bound : Registry} (h : registry.bind id username = .ok bound) :
    bound.get? other = registry.get? other := by
  unfold bind at h
  split at h
  · cases h
    rfl
  · cases h

theorem remove_of_none (h : registry.get? id = none) : registry.remove id = (none, registry) := by
  rw [remove, h]

theorem remove_of_some (h : registry.get? id = some session) :
    registry.remove id =
      (some session,
        { sessions := registry.sessions.filter fun other ↦ other.id != id
          users := registry.users.filterMap (unbindRow session.username id) }) := by
  rw [remove, h]

theorem get?_remove : (registry.remove id).2.get? other =
    if id = other then none else registry.get? other := by
  cases hget : registry.get? id with
  | none =>
    rw [remove_of_none hget]
    by_cases hid : id = other
    · rw [if_pos hid, ← hid, hget]
    · rw [if_neg hid]
  | some session =>
    rw [remove_of_some hget]
    unfold get?
    simp only [List.find?_filter]
    by_cases hid : id = other
    · rw [if_pos hid, List.find?_eq_none]
      rintro kept -
      simp [hid]
    · rw [if_neg hid]
      congr 1
      funext kept
      by_cases hkept : kept.id = other
      · have hne : other ≠ id := fun heq ↦ hid heq.symm
        simp [hkept, hne]
      · simp [hkept]

theorem sessions_eq_nil (h : ∀ id, registry.get? id = none) : registry.sessions = [] := by
  refine List.eq_nil_iff_forall_not_mem.mpr fun session hmem ↦ ?_
  have hnot := List.find?_eq_none.mp (h session.id) session hmem
  simp at hnot

/-! ### Ids by user -/

theorem listed_update {change : Session → Session} :
    (registry.update other change).Listed username id ↔ registry.Listed username id :=
  Iff.rfl

theorem listed_iff_mem_pairs :
    registry.Listed username id ↔ (username, id) ∈ Rows.pairs registry.users :=
  Rows.mem_pairs_iff.symm

theorem users_of_bind {bound : Registry} (h : registry.bind id username = .ok bound) :
    bound.users = Rows.insert username id registry.users := by
  unfold bind at h
  split at h
  · cases h
    exact bindTo_eq_insert username id registry.users
  · cases h

/-- The row of a user gains the id that is bound to it. -/
theorem listed_of_bind {bound : Registry} {owner : String}
    (h : registry.bind id username = .ok bound) :
    bound.Listed owner other ↔ (owner = username ∧ other = id) ∨ registry.Listed owner other := by
  rw [listed_iff_mem_pairs, listed_iff_mem_pairs, users_of_bind h]
  exact Rows.mem_pairs_insert

/-- Removing a session takes its id out of its user's row, and nothing else. -/
theorem listed_remove {owner : String} (h : registry.get? id = some session) :
    (registry.remove id).2.Listed owner other ↔
      registry.Listed owner other ∧ ¬(owner = session.username ∧ other = id) := by
  rw [listed_iff_mem_pairs, listed_iff_mem_pairs, remove_of_some h]
  simp only
  rw [(shrinks_unbindRow session.username id).mem_pairs_filterMap]
  refine and_congr_right fun _ ↦ ?_
  simp only [Bool.not_eq_true', Bool.and_eq_false_iff, beq_eq_false_iff_ne, ne_eq,
    Decidable.not_and_iff_not_or_not]

/-- A session found under a user is live, and listed under that user. -/
theorem listed_of_mem_sessionsFor (h : session ∈ registry.sessionsFor username) :
    registry.get? session.id = some session ∧ registry.Listed username session.id := by
  unfold sessionsFor getMany at h
  obtain ⟨found, hfound, hget⟩ := List.mem_filterMap.mp h
  obtain rfl := id_of_get? hget
  refine ⟨hget, ?_⟩
  cases hlookup : registry.users.lookup username with
  | none =>
    rw [hlookup] at hfound
    cases hfound
  | some ids =>
    rw [hlookup] at hfound
    obtain ⟨front, back, hrows, -⟩ := List.lookup_eq_some_iff.mp hlookup
    exact ⟨(username, ids), by rw [hrows]; simp, rfl, hfound⟩

/-! ### Proper registries -/

/-- No id has two sessions, and the rows of users are a map into sets. -/
structure Proper (registry : Registry) : Prop where
  ids : (registry.sessions.map Session.id).Nodup
  users : Rows.Proper registry.users

theorem proper_empty : Proper {} :=
  ⟨List.nodup_nil, Rows.proper_nil⟩

/-- In a proper registry a session stands in the list if it is found under its id. -/
theorem Proper.mem_sessions_iff (h : registry.Proper) :
    session ∈ registry.sessions ↔ registry.get? session.id = some session := by
  constructor
  · intro hmem
    cases hget : registry.get? session.id with
    | none =>
      have hnot := List.find?_eq_none.mp hget session hmem
      simp at hnot
    | some found =>
      have hfound : found ∈ registry.sessions := List.mem_of_find?_eq_some hget
      rw [List.inj_on_of_nodup_map h.ids hfound hmem (id_of_get? hget)]
  · exact List.mem_of_find?_eq_some

theorem mem_ids_put (sessions : List Session) :
    id ∈ (put session sessions).map Session.id ↔
      id = session.id ∨ id ∈ sessions.map Session.id := by
  induction sessions with
  | nil => simp [put]
  | cons kept sessions ih =>
    rw [put]
    by_cases hkept : kept.id = session.id
    · rw [if_pos hkept, List.map_cons, List.map_cons, List.mem_cons, List.mem_cons, hkept]
      exact ⟨fun h ↦ h.imp_right .inr, fun h ↦ h.elim .inl fun hmem ↦ hmem⟩
    · rw [if_neg hkept, List.map_cons, List.map_cons, List.mem_cons, List.mem_cons, ih]
      exact or_left_comm

theorem nodup_ids_put {sessions : List Session} (h : (sessions.map Session.id).Nodup) :
    ((put session sessions).map Session.id).Nodup := by
  induction sessions with
  | nil => simp [put]
  | cons kept sessions ih =>
    obtain ⟨hfresh, hrest⟩ := List.nodup_cons.mp h
    rw [put]
    by_cases hkept : kept.id = session.id
    · rw [if_pos hkept, List.map_cons, ← hkept]
      exact h
    · rw [if_neg hkept]
      refine List.nodup_cons.mpr ⟨?_, ih hrest⟩
      rw [mem_ids_put, not_or]
      exact ⟨hkept, hfresh⟩

theorem Proper.add (h : registry.Proper) (session : Session) : (registry.add session).Proper :=
  ⟨nodup_ids_put h.ids, h.users⟩

theorem Proper.update (h : registry.Proper) {change : Session → Session}
    (hchange : ∀ session : Session, session.id = id → (change session).id = id) :
    (registry.update id change).Proper := by
  refine ⟨?_, h.users⟩
  have hids : (registry.update id change).sessions.map Session.id =
      registry.sessions.map Session.id := by
    rw [Registry.update, List.map_map]
    refine List.map_congr_left fun kept _ ↦ ?_
    by_cases hkept : kept.id = id
    · rw [Function.comp_apply, if_pos hkept, hchange kept hkept, hkept]
    · rw [Function.comp_apply, if_neg hkept]
  rw [hids]
  exact h.ids

theorem Proper.bind (h : registry.Proper) {bound : Registry}
    (hbind : registry.bind id username = .ok bound) : bound.Proper := by
  have husers := users_of_bind hbind
  unfold Registry.bind at hbind
  split at hbind
  · cases hbind
    exact ⟨h.ids, husers ▸ h.users.insert username id⟩
  · cases hbind

theorem Proper.remove (h : registry.Proper) (id : SessionId) : (registry.remove id).2.Proper := by
  cases hget : registry.get? id with
  | none =>
    rw [remove_of_none hget]
    exact h
  | some session =>
    rw [remove_of_some hget]
    refine ⟨?_, h.users.filterMap (shrinks_unbindRow session.username id)⟩
    exact h.ids.sublist (List.filter_sublist.map Session.id)

end StompBroker.Registry
