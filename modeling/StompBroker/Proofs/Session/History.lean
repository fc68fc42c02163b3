import Mathlib.Data.List.Induction
import Mathlib.Data.Set.Card
import StompBroker.Proofs.Session.Registry

/-!
# Who is listed after a history

`Registry.bind` lists a session under the name that it is given, and `Registry.remove` unlists it
under the name that the session carries. Nothing makes the two agree, so what is left of a session
depends on all that was asked of the registry before. A `RegistryCall` is one such question, or the
handshake that gives a session its name, and `Registry.after` is the registry behind a history.

An id stands under a user exactly if it was bound to that user and not removed under that very name
since (`listed_after_iff`). This follows from what one call does (`listed_perform`) by induction on
the last call. The users that `onlineCount` counts are those who have a listed id
(`onlineCount_eq_ncard`), and whether its session lives does not matter.

In a history where sessions are bound to the names that they carry, and keep them (`Admitted`), every
listed id is a live session with that name (`Owned`), and a removal leaves nothing behind.
`Removal` says both, what every removal leaves and when that is nothing.
-/

set_option autoImplicit false

namespace StompBroker

/-- What is asked of a registry, and what happens to the sessions in it. -/
inductive RegistryCall where
  | add (session : Session)
  /-- The session of that id passes its handshake. -/
  | authenticate (id : SessionId) (username : String) (version : Version)
  | bind (id : SessionId) (username : String)
  | remove (id : SessionId)
  deriving DecidableEq, Repr

namespace Registry

/-- A registry after one call. A bind that fails changes nothing. -/
def perform (registry : Registry) : RegistryCall → Registry
  | .add session => registry.add session
  | .authenticate id username version =>
    registry.update id fun session ↦ session.authenticate username version
  | .bind id username =>
    match registry.bind id username with
    | .ok bound => bound
    | .error _ => registry
  | .remove id => (registry.remove id).2

/-- The registry behind a history. -/
def after (calls : List RegistryCall) : Registry :=
  calls.foldl perform {}

/-- The name that a live session carries. -/
def name? (registry : Registry) (id : SessionId) : Option String :=
  (registry.get? id).map Session.username

/-- The id was bound to the user, and it was not removed under that name since. -/
def BoundUnder (calls : List RegistryCall) (username : String) (id : SessionId) : Prop :=
  ∃ earlier later, calls = earlier ++ .bind id username :: later ∧
    (after earlier).contains id = true ∧
    ∀ between rest, later = between ++ .remove id :: rest →
      (after (earlier ++ .bind id username :: between)).name? id ≠ some username

variable {registry : Registry} {calls : List RegistryCall} {call : RegistryCall}
  {session : Session} {id : SessionId} {username : String}

/-! ### One call -/

theorem after_concat (calls : List RegistryCall) (call : RegistryCall) :
    after (calls ++ [call]) = (after calls).perform call := by
  rw [after, List.foldl_append, List.foldl_cons, List.foldl_nil, after]

theorem bind_of_contains (h : registry.contains id = true) (username : String) :
    registry.bind id username =
      .ok { registry with users := bindTo username id registry.users } := by
  rw [bind, if_pos h]

theorem perform_bind_of_contains (h : registry.contains id = true) (username : String) :
    registry.bind id username = .ok (registry.perform (.bind id username)) := by
  rw [perform, bind_of_contains h username]

theorem perform_bind_of_not_contains (h : ¬registry.contains id = true) (username : String) :
    registry.perform (.bind id username) = registry := by
  rw [perform, bind, if_neg h]

theorem name?_eq_some_iff :
    registry.name? id = some username ↔
      ∃ session, registry.get? id = some session ∧ session.username = username :=
  Option.map_eq_some_iff

/-- A call lists an id by binding it, and unlists it by removing it under the same name. -/
theorem listed_perform :
    (registry.perform call).Listed username id ↔
      (call = .bind id username ∧ registry.contains id = true) ∨
        (registry.Listed username id ∧
          ¬(call = .remove id ∧ registry.name? id = some username)) := by
  cases call with
  | add session =>
    simp only [reduceCtorEq, false_and, false_or, not_false_eq_true, and_true]
    exact Iff.rfl
  | authenticate other name version =>
    simp only [reduceCtorEq, false_and, false_or, not_false_eq_true, and_true]
    exact listed_update
  | bind other name =>
    simp only [RegistryCall.bind.injEq, reduceCtorEq, false_and, not_false_eq_true, and_true]
    by_cases hlive : registry.contains other = true
    · rw [listed_of_bind (perform_bind_of_contains hlive name)]
      refine or_congr_left ⟨?_, ?_⟩
      · rintro ⟨rfl, rfl⟩
        exact ⟨⟨rfl, rfl⟩, hlive⟩
      · rintro ⟨⟨rfl, rfl⟩, -⟩
        exact ⟨rfl, rfl⟩
    · rw [perform_bind_of_not_contains hlive]
      refine (or_iff_right ?_).symm
      rintro ⟨⟨rfl, -⟩, hcontains⟩
      exact hlive hcontains
  | remove other =>
    simp only [reduceCtorEq, false_and, false_or, RegistryCall.remove.injEq]
    cases hget : registry.get? other with
    | none =>
      have hgone : ¬(other = id ∧ registry.name? id = some username) := by
        rintro ⟨rfl, hname⟩
        rw [name?, hget] at hname
        cases hname
      rw [perform, remove_of_none hget]
      exact (and_iff_left hgone).symm
    | some session =>
      rw [perform, listed_remove hget]
      refine and_congr_right fun _ ↦ not_congr ⟨?_, ?_⟩
      · rintro ⟨rfl, rfl⟩
        exact ⟨rfl, name?_eq_some_iff.mpr ⟨session, hget, rfl⟩⟩
      · rintro ⟨rfl, hname⟩
        obtain ⟨found, hfound, rfl⟩ := name?_eq_some_iff.mp hname
        rw [hget] at hfound
        cases hfound
        exact ⟨rfl, rfl⟩

/-! ### All calls -/

theorem boundUnder_concat :
    BoundUnder (calls ++ [call]) username id ↔
      (call = .bind id username ∧ (after calls).contains id = true) ∨
        (BoundUnder calls username id ∧
          ¬(call = .remove id ∧ (after calls).name? id = some username)) := by
  constructor
  · rintro ⟨earlier, later, hcalls, hlive, hkept⟩
    -- either the last call is the bind itself, or it comes after the bind
    rcases List.eq_nil_or_concat later with rfl | ⟨before, last, rfl⟩
    · obtain ⟨rfl, hlast⟩ := List.append_inj' hcalls rfl
      cases hlast
      exact .inl ⟨rfl, hlive⟩
    · rw [List.concat_eq_append] at hcalls hkept
      have hsplit : calls ++ [call] = earlier ++ .bind id username :: before ++ [last] := by
        rw [hcalls]
        simp
      obtain ⟨rfl, hlast⟩ := List.append_inj' hsplit rfl
      cases hlast
      refine .inr ⟨⟨earlier, before, rfl, hlive, fun between rest hbefore ↦ ?_⟩, ?_⟩
      · exact hkept between (rest ++ [call]) (by rw [hbefore]; simp)
      · rintro ⟨rfl, hname⟩
        exact hkept before [] rfl hname
  · rintro (⟨rfl, hlive⟩ | ⟨⟨earlier, later, rfl, hlive, hkept⟩, hcall⟩)
    · refine ⟨calls, [], rfl, hlive, fun between rest hnil ↦ ?_⟩
      cases between <;> cases hnil
    · refine ⟨earlier, later ++ [call], by simp, hlive, fun between rest hlater ↦ ?_⟩
      -- a removal after the bind is the last call, or one that the shorter history had already
      rcases List.eq_nil_or_concat rest with rfl | ⟨before, last, rfl⟩
      · obtain ⟨rfl, hlast⟩ := List.append_inj' hlater rfl
        cases hlast
        exact fun hname ↦ hcall ⟨rfl, hname⟩
      · have hsplit : later ++ [call] = between ++ .remove id :: before ++ [last] := by
          rw [hlater]
          simp
        exact hkept between before (List.append_inj' hsplit rfl).1

/-- An id is listed exactly as long as it is bound. -/
theorem listed_after_iff : (after calls).Listed username id ↔ BoundUnder calls username id := by
  induction calls using List.reverseRecOn with
  | nil =>
    constructor
    · rintro ⟨row, hrow, -⟩
      cases hrow
    · rintro ⟨earlier, later, hcalls, -⟩
      cases earlier <;> cases hcalls
  | append_singleton calls call ih => rw [after_concat, listed_perform, boundUnder_concat, ih]

theorem proper_perform (h : registry.Proper) (call : RegistryCall) :
    (registry.perform call).Proper := by
  cases call with
  | add session => exact h.add session
  | authenticate id username version => exact h.update fun _ hid ↦ hid
  | bind id username =>
    by_cases hlive : registry.contains id = true
    · exact h.bind (perform_bind_of_contains hlive username)
    · rw [perform_bind_of_not_contains hlive]
      exact h
  | remove id => exact h.remove id

theorem proper_after (calls : List RegistryCall) : (after calls).Proper := by
  induction calls using List.reverseRecOn with
  | nil => exact proper_empty
  | append_singleton calls call ih =>
    rw [after_concat]
    exact proper_perform ih call

/-! ### Counting users -/

/-- In a proper registry the users that are counted are those with a listed id. -/
theorem onlineCount_eq_ncard (h : registry.Proper) :
    registry.onlineCount = {username | ∃ id, registry.Listed username id}.ncard := by
  have hlisted : {username | ∃ id, registry.Listed username id} =
      ((registry.users.map Prod.fst).toFinset : Set String) := by
    ext username
    rw [List.coe_toFinset]
    constructor
    · rintro ⟨id, row, hrow, rfl, -⟩
      exact List.mem_map_of_mem hrow
    · intro hmem
      obtain ⟨row, hrow, rfl⟩ := List.mem_map.mp hmem
      obtain ⟨id, hid⟩ := List.exists_mem_of_ne_nil _ (h.users.filled row hrow)
      exact ⟨id, row, hrow, rfl, hid⟩
  rw [hlisted, Set.ncard_coe_finset, List.toFinset_card_of_nodup h.users.names, List.length_map,
    onlineCount]

/-- A user has a live session if one of the listed ids does. -/
theorem sessionsFor_ne_nil_iff (h : registry.Proper) :
    registry.sessionsFor username ≠ [] ↔
      ∃ id, registry.Listed username id ∧ registry.get? id ≠ none := by
  constructor
  · intro hne
    obtain ⟨session, hmem⟩ := List.exists_mem_of_ne_nil _ hne
    obtain ⟨hget, hlisted⟩ := listed_of_mem_sessionsFor hmem
    exact ⟨session.id, hlisted, by rw [hget]; exact Option.some_ne_none session⟩
  · rintro ⟨id, hlisted, hlive⟩
    obtain ⟨session, hget⟩ := Option.ne_none_iff_exists'.mp hlive
    have hid : id ∈ (registry.users.lookup username).getD [] :=
      h.users.mem_lookup_iff.mpr (listed_iff_mem_pairs.mp hlisted)
    exact List.ne_nil_of_mem (List.mem_filterMap.mpr ⟨id, hid, hget⟩)

/-! ### Sessions under their own names -/

/-- Every listed id is a live session that carries the name it is listed under. -/
def Owned (registry : Registry) : Prop :=
  ∀ username id, registry.Listed username id → registry.name? id = some username

/-- A call that leaves ids listed under the names that their sessions carry. -/
def Admits (registry : Registry) : RegistryCall → Prop
  | .add session =>
    ∀ username, registry.name? session.id = some username → session.username = username
  | .authenticate id username _ => ∀ other, registry.Listed other id → other = username
  | .bind id username => registry.contains id = true → registry.name? id = some username
  | .remove _ => True

/-- A history of such calls. -/
inductive Admitted : List RegistryCall → Prop
  | nil : Admitted []
  | concat {calls : List RegistryCall} {call : RegistryCall} :
    Admitted calls → (after calls).Admits call → Admitted (calls ++ [call])

theorem Owned.perform (h : registry.Owned) (hadmits : registry.Admits call) :
    (registry.perform call).Owned := by
  intro username id hlisted
  rcases listed_perform.mp hlisted with ⟨rfl, hlive⟩ | ⟨hold, hkept⟩
  · have hname := hadmits hlive
    rw [name?] at hname ⊢
    rwa [get?_of_bind (perform_bind_of_contains hlive username)]
  · have hname := h username id hold
    obtain ⟨session, hget, hcarries⟩ := name?_eq_some_iff.mp hname
    rw [name?_eq_some_iff]
    cases call with
    | add added =>
      rw [Registry.perform, get?_add]
      by_cases hid : added.id = id
      · subst hid
        exact ⟨added, if_pos rfl, hadmits username hname⟩
      · rw [if_neg hid]
        exact ⟨session, hget, hcarries⟩
    | authenticate other name version =>
      have hchange : ∀ kept : Session, kept.id = other →
          (kept.authenticate name version).id = other := fun _ hid ↦ hid
      rw [Registry.perform, get?_update hchange]
      by_cases hid : other = id
      · subst hid
        rw [if_pos rfl, hget]
        exact ⟨_, rfl, (hadmits username hold).symm⟩
      · rw [if_neg hid]
        exact ⟨session, hget, hcarries⟩
    | bind other name =>
      refine ⟨session, ?_, hcarries⟩
      by_cases hlive : registry.contains other = true
      · rw [get?_of_bind (perform_bind_of_contains hlive name), hget]
      · rw [perform_bind_of_not_contains hlive, hget]
    | remove other =>
      have hother : other ≠ id := by
        rintro rfl
        exact hkept ⟨rfl, hname⟩
      rw [Registry.perform, get?_remove, if_neg hother]
      exact ⟨session, hget, hcarries⟩

theorem owned_after (h : Admitted calls) : (after calls).Owned := by
  induction h with
  | nil =>
    rintro username id ⟨row, hrow, -⟩
    cases hrow
  | concat _ hadmits ih =>
    rw [after_concat]
    exact ih.perform hadmits

/-- Where every listed id lives, the users that are counted are those with a live session. -/
theorem Owned.onlineCount_eq_ncard (h : registry.Owned) (hproper : registry.Proper) :
    registry.onlineCount = {username | registry.sessionsFor username ≠ []}.ncard := by
  rw [Registry.onlineCount_eq_ncard hproper]
  congr 1
  ext username
  rw [Set.mem_ofPred_eq, Set.mem_ofPred_eq, sessionsFor_ne_nil_iff hproper]
  refine exists_congr fun id ↦ (and_iff_left_of_imp fun hlisted ↦ ?_).symm
  obtain ⟨session, hget, -⟩ := name?_eq_some_iff.mp (h username id hlisted)
  rw [hget]
  exact Option.some_ne_none session

/-! ### Removal -/

/-- What is left once a session was removed behind a history. -/
structure Removal (calls : List RegistryCall) (id : SessionId) : Prop where
  absent : (after (calls ++ [.remove id])).get? id = none
  unseen : ∀ username, ∀ session ∈ (after (calls ++ [.remove id])).sessionsFor username,
    session.id ≠ id
  /-- The id stays under every name that it was bound to, but for the one that it carried. -/
  listed_iff : ∀ username, (after (calls ++ [.remove id])).Listed username id ↔
    BoundUnder calls username id ∧ (after calls).name? id ≠ some username
  /-- Whoever has an id that stayed is counted. -/
  count : (after (calls ++ [.remove id])).onlineCount =
    {username | ∃ other, BoundUnder (calls ++ [.remove id]) username other}.ncard
  /-- With sessions under their own names, no id stays. -/
  complete : Admitted calls →
    (∀ username, ¬(after (calls ++ [.remove id])).Listed username id) ∧
      (after (calls ++ [.remove id])).onlineCount =
        {username | (after (calls ++ [.remove id])).sessionsFor username ≠ []}.ncard

/-- A removed session is found no more. Its id stays listed under the names that it was bound to
without carrying them, and under none if all sessions were bound to the names they carry. -/
theorem removal_after (calls : List RegistryCall) (id : SessionId) : Removal calls id where
  absent := by rw [after_concat, perform, get?_remove, if_pos rfl]
  unseen username session hmem := by
    rintro rfl
    have hget := (listed_of_mem_sessionsFor hmem).1
    rw [after_concat, perform, get?_remove, if_pos rfl] at hget
    cases hget
  listed_iff username := by
    rw [after_concat, listed_perform, listed_after_iff]
    simp
  count := by
    rw [onlineCount_eq_ncard (proper_after _)]
    simp only [listed_after_iff]
  complete hadmitted := by
    have hfollows : Admitted (calls ++ [.remove id]) := .concat hadmitted trivial
    have howned := owned_after hfollows
    refine ⟨fun username hlisted ↦ ?_, howned.onlineCount_eq_ncard (proper_after _)⟩
    have hname := howned username id hlisted
    rw [name?, after_concat, perform, get?_remove, if_pos rfl] at hname
    cases hname

/-- One of a user's two connections leaves, although it was bound twice, and the user stays. -/
theorem removal_after_shared_name :
    let phone : SessionId := ⟨"phone"⟩
    let laptop : SessionId := ⟨"laptop"⟩
    let calls : List RegistryCall :=
      [.add ⟨phone, 1, "alice", true, .v12, [], false⟩, .bind phone "alice", .bind phone "alice",
        .add ⟨laptop, 2, "alice", true, .v11, [], false⟩, .bind laptop "alice"]
    Admitted calls ∧ Removal calls phone ∧
      (∀ username, ¬(after (calls ++ [.remove phone])).Listed username phone) ∧
        (after (calls ++ [.remove phone])).onlineCount = 1 ∧
          {username | (after (calls ++ [.remove phone])).sessionsFor username ≠ []}.ncard = 1 := by
  intro phone laptop calls
  have hphone : Admitted (calls.take 3) := by
    refine .concat (.concat (.concat .nil ?_) ?_) ?_
    · rintro username ⟨⟩
    · exact fun _ ↦ rfl
    · exact fun _ ↦ rfl
  have hadmitted : Admitted calls := by
    refine .concat (.concat hphone ?_) ?_
    · rintro username ⟨⟩
    · exact fun _ ↦ rfl
  have hremoval : Removal calls phone := removal_after calls phone
  obtain ⟨hunlisted, hcount⟩ := hremoval.complete hadmitted
  have hone : (after (calls ++ [.remove phone])).onlineCount = 1 := rfl
  exact ⟨hadmitted, hremoval, hunlisted, hone, hcount ▸ hone⟩

/-- A session that was bound to a name it does not carry leaves its user on line for ever. -/
theorem not_removal_complete :
    ¬∀ (calls : List RegistryCall) (id : SessionId),
      (∀ username, ¬(after (calls ++ [.remove id])).Listed username id) ∧
        (∀ username, ∀ session ∈ (after (calls ++ [.remove id])).sessionsFor username,
          session.id ≠ id) ∧
          (after (calls ++ [.remove id])).onlineCount =
            {username | (after (calls ++ [.remove id])).sessionsFor username ≠ []}.ncard := by
  intro hclaim
  obtain ⟨hunlisted, -⟩ :=
    hclaim [.add { id := ⟨"a"⟩, connectTime := 1 }, .bind ⟨"a"⟩ "bob"] ⟨"a"⟩
  exact hunlisted "bob" ⟨("bob", [⟨"a"⟩]), by decide, rfl, by decide⟩

end Registry

end StompBroker
