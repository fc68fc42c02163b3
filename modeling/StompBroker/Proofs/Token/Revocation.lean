import StompBroker.Proofs.Token.Liveness

/-!
# What a revocation is worth

A revocation refuses every token of a user that is outstanding. There is one key for all of them,
though, and the next token of the user puts it back: the earlier tokens are then accepted again for
as long as they are valid (`accepts_of_reissued`). Nothing else brings them back
(`reissued_of_isLive`), so `accepts_revoked_iff` says exactly when a token is accepted behind a
revocation, and `not_revocationFinal` that it does not stay refused.
-/

set_option autoImplicit false

namespace StompBroker

namespace TokenEvent

/-- Among the events a token is issued for a user that none of the later ones revokes. -/
def Reissued (username : String) (events : List TokenEvent) : Prop :=
  ∃ front reissue back, events = front ++ reissue :: back ∧ reissue.Issues username ∧
    ∀ event ∈ back, ¬event.Revokes username

/-- A user that was not live is live after some events only if a token was issued among them. -/
theorem reissued_of_foldl_heard {username : String} {events : List TokenEvent} {start : Clock}
    (h : events.foldl (heard username) none = some start) : Reissued username events := by
  induction events using List.reverseRecOn with
  | nil => cases h
  | append_singleton events event ih =>
    rw [List.foldl_concat] at h
    by_cases hissues : event.Issues username
    · exact ⟨events, event, [], rfl, hissues, fun _ hmem ↦ absurd hmem List.not_mem_nil⟩
    · have hrevokes : ¬event.Revokes username := fun hrevokes ↦ by
        rw [heard_of_revokes hrevokes] at h
        cases h
      rw [heard_eq_self hissues hrevokes] at h
      obtain ⟨front, reissue, back, hevents, hreissue, hback⟩ := ih h
      refine ⟨front, reissue, back ++ [event], by rw [hevents]; simp, hreissue, ?_⟩
      intro later hmem
      rcases List.mem_append.mp hmem with hmem | hmem
      · exact hback later hmem
      · rw [List.mem_singleton.mp hmem]
        exact hrevokes

end TokenEvent

namespace Authenticator

variable {auth : Authenticator}

/-- A validation after a history succeeds. -/
def Accepts (auth : Authenticator) (past : List TokenEvent) (now : Clock) (token : String) : Prop :=
  ∃ claims, auth.judge past now token = .ok claims

/-- A token that is valid and whose user is live is accepted, and no other token that was signed. -/
theorem accepts_sign_iff {past : List TokenEvent} {start now : Clock} {user : Principal}
    (h : Advancing past now) (huser : user.userId ≤ maxUnsigned64) (hstart : 0 ≤ start.millis)
    (hnow : start.millis ≤ now.millis) :
    auth.Accepts past now (WebToken.sign auth.key (auth.claimsFor start user).toJson) ↔
      now.millis < ((auth.claimsFor start user).expiresAt + 1) * 1000 ∧
        auth.isLive user.username past now = true := by
  have hname : (auth.claimsFor start user).username = user.username := rfl
  rw [Accepts, judge_eq h, auth.parse_sign_claimsFor huser hstart hnow h.lt_maxInt64]
  by_cases hvalid : now.millis < ((auth.claimsFor start user).expiresAt + 1) * 1000
  · rw [if_pos hvalid]
    simp only [hname, hvalid, true_and]
    cases auth.isLive user.username past now <;> simp
  · simp [hvalid]

/-- The next token of a user brings the revoked ones back, for as long as they are valid. -/
theorem accepts_of_reissued (past : List TokenEvent) {events : List TokenEvent} {start now : Clock}
    {user : Principal}
    (h : Advancing (past ++ ⟨start, .issue user⟩ :: events) now)
    (huser : user.userId ≤ maxUnsigned64) (hreissued : TokenEvent.Reissued user.username events)
    (hvalid : now.millis < ((auth.claimsFor start user).expiresAt + 1) * 1000) :
    auth.Accepts (past ++ ⟨start, .issue user⟩ :: events) now
      (WebToken.sign auth.key (auth.claimsFor start user).toJson) := by
  rw [accepts_sign_iff h huser h.nonneg (h.le_of_mem (by simp))]
  obtain ⟨front, reissue, back, rfl, hissues, hback⟩ := hreissued
  have hlater : start.millis ≤ reissue.clock.millis := h.le_of_mem (by simp)
  have hstart : 0 ≤ start.millis := h.nonneg
  have hpast : past ++ ⟨start, .issue user⟩ :: (front ++ reissue :: back) =
      (past ++ ⟨start, .issue user⟩ :: front) ++ reissue :: back := by simp
  rw [hpast] at h ⊢
  exact ⟨hvalid, isLive_of_not_revoked h hissues hback hstart hlater hvalid⟩

/-- Nothing but the next token of a user makes it live again. -/
theorem reissued_of_isLive {past since : List TokenEvent} {stop : TokenEvent} {now : Clock}
    {username : String} (hrevokes : stop.Revokes username)
    (hlive : auth.isLive username (past ++ stop :: since) now = true) :
    TokenEvent.Reissued username since := by
  rw [isLive, TokenEvent.lastWord_append, List.foldl_cons, TokenEvent.heard_of_revokes hrevokes,
    Option.any_eq_true] at hlive
  obtain ⟨start, hstart, -⟩ := hlive
  exact TokenEvent.reissued_of_foldl_heard hstart

/-- A token that was revoked is accepted if and only if it is still valid and a token was issued for
the same user since, with no further revocation. -/
theorem accepts_revoked_iff (auth : Authenticator) (before between : List TokenEvent)
    {since : List TokenEvent} {start stop now : Clock} {user : Principal} {token : String}
    (h : Advancing
      (before ++ ⟨start, .issue user⟩ :: (between ++ ⟨stop, .revoke user.username⟩ :: since)) now)
    (huser : user.userId ≤ maxUnsigned64) (htoken : auth.issued before start user = .ok token) :
    auth.Accepts
        (before ++ ⟨start, .issue user⟩ :: (between ++ ⟨stop, .revoke user.username⟩ :: since))
        now token ↔
      now.millis < ((auth.claimsFor start user).expiresAt + 1) * 1000 ∧
        TokenEvent.Reissued user.username since := by
  cases htoken
  constructor
  · intro haccepts
    rw [accepts_sign_iff h huser h.nonneg (h.le_of_mem (by simp))] at haccepts
    obtain ⟨hvalid, hlive⟩ := haccepts
    have hpast :
        before ++ ⟨start, .issue user⟩ :: (between ++ ⟨stop, .revoke user.username⟩ :: since) =
          (before ++ ⟨start, .issue user⟩ :: between) ++
            ⟨stop, .revoke user.username⟩ :: since := by
      simp
    have hrevokes : TokenEvent.Revokes user.username ⟨stop, .revoke user.username⟩ := rfl
    rw [hpast] at hlive
    exact ⟨hvalid, reissued_of_isLive hrevokes hlive⟩
  · rintro ⟨hvalid, front, reissue, back, rfl, hissues, hback⟩
    exact accepts_of_reissued before h huser
      ⟨between ++ ⟨stop, .revoke user.username⟩ :: front, reissue, back, by simp, hissues, hback⟩
      hvalid

/-- A token from before a logout is accepted after the next login. -/
theorem accepts_revoked_iff_second_login :
    let auth : Authenticator := ⟨"broker", 3600, []⟩
    let alice : Principal := ⟨1, "alice"⟩
    let past : List TokenEvent :=
      [⟨⟨1700000000000⟩, .issue alice⟩, ⟨⟨1700000000000⟩, .revoke "alice"⟩,
        ⟨⟨1700000001000⟩, .issue alice⟩]
    let now : Clock := ⟨1700000001000⟩
    Advancing past now ∧ ∃ token, auth.issued [] ⟨1700000000000⟩ alice = .ok token ∧
      auth.Accepts past now token := by
  intro auth alice past now
  have h : Advancing past now := ⟨by decide, by decide⟩
  have hreissued : TokenEvent.Reissued "alice" [⟨⟨1700000001000⟩, .issue alice⟩] :=
    ⟨[], _, [], rfl, ⟨alice, rfl, rfl⟩, fun _ hmem ↦ absurd hmem List.not_mem_nil⟩
  refine ⟨h, _, rfl, ?_⟩
  exact (accepts_revoked_iff auth [] [] h (by decide) rfl).mpr
    ⟨by decide, hreissued⟩

/-- A token that was issued before a revocation of its user is never accepted after it. -/
def RevocationFinal (auth : Authenticator) : Prop :=
  ∀ (before between since : List TokenEvent) (start stop now : Clock) (user : Principal)
      (token : String),
    user.userId ≤ maxUnsigned64 →
    Advancing
      (before ++ ⟨start, .issue user⟩ :: (between ++ ⟨stop, .revoke user.username⟩ :: since)) now →
    auth.issued before start user = .ok token →
    ¬auth.Accepts
      (before ++ ⟨start, .issue user⟩ :: (between ++ ⟨stop, .revoke user.username⟩ :: since))
      now token

/-- A login brings back the token that a logout took away a second before. -/
theorem not_revocationFinal : ¬RevocationFinal ⟨"broker", 3600, []⟩ := by
  intro hfinal
  have h : Advancing
      [⟨⟨1700000000000⟩, .issue ⟨1, "alice"⟩⟩, ⟨⟨1700000000000⟩, .revoke "alice"⟩,
        ⟨⟨1700000001000⟩, .issue ⟨1, "alice"⟩⟩] ⟨1700000001000⟩ := ⟨by decide, by decide⟩
  refine hfinal [] [] [_] _ _ _ ⟨1, "alice"⟩ _ (by decide) h rfl ?_
  refine accepts_of_reissued [] h (by decide)
    ⟨[⟨⟨1700000000000⟩, .revoke "alice"⟩], _, [], rfl, ⟨⟨1, "alice"⟩, rfl, rfl⟩, ?_⟩ (by decide)
  exact fun _ hmem ↦ absurd hmem List.not_mem_nil

end Authenticator

end StompBroker
