import Mathlib.Data.List.Induction
import StompBroker.Proofs.Token.Cache
import StompBroker.Proofs.Token.Timeline

/-!
# Tokens over the life of a cache

An authenticator is asked to issue tokens, to read them, to validate them and to revoke all tokens
of a user; each `TokenEvent` is such a `TokenCall` and the reading of the clock at which it was
made. `Authenticator.cacheAfter` is the cache behind a history, `Authenticator.judge` what a
validation after the history tells. A history is `Advancing` if the clock never ran backwards and
stayed between the epoch and the end of time.

Only issuing and revoking say anything about a user. `lastWord` is the instant since which the user
is live, or none. Each call keeps the cache in step with it (`Tracks.perform`), so a whole history
does (`tracks_cacheAfter`), and a validation tells what `parse` tells unless the last word about the
user no longer holds (`judge_eq`).

While no revocation follows, the last word comes from the issue of the token or from a later one
(`lastWord_of_not_revoked`), and the key that came with it expires no earlier than the token
(`lt_liveUntil`). So validating is parsing until the user is revoked, whatever happens to other
users (`faithful_of_advancing`).
-/

set_option autoImplicit false

namespace StompBroker

/-- What an authenticator is asked for. -/
inductive TokenCall where
  | issue (user : Principal)
  | parse (token : String)
  | validate (token : String)
  | revoke (username : String)
  deriving DecidableEq, Repr

/-- A call, and what the clock read. -/
structure TokenEvent where
  clock : Clock
  call : TokenCall
  deriving DecidableEq, Repr

namespace TokenEvent

/-- The event says whether a user is live from now on. -/
def concerns (username : String) (event : TokenEvent) : Bool :=
  match event.call with
  | .issue user => user.username == username
  | .revoke name => name == username
  | .parse _ | .validate _ => false

/-- Since when a user is live, after an event. -/
def heard (username : String) (since : Option Clock) (event : TokenEvent) : Option Clock :=
  match event.call with
  | .issue user => if user.username = username then some event.clock else since
  | .revoke name => if name = username then none else since
  | .parse _ | .validate _ => since

/-- Since when a user is live, after a history. -/
def lastWord (username : String) (past : List TokenEvent) : Option Clock :=
  past.foldl (heard username) none

/-- The event revokes the tokens of a user. -/
def Revokes (username : String) (event : TokenEvent) : Prop := event.call = .revoke username

/-- The event issues a token for a user. -/
def Issues (username : String) (event : TokenEvent) : Prop :=
  ∃ user, event.call = .issue user ∧ user.username = username

/-! ### The last word about a user -/

variable {username : String}

theorem heard_of_issues {event : TokenEvent} (h : event.Issues username) (since : Option Clock) :
    event.heard username since = some event.clock := by
  obtain ⟨user, hcall, hname⟩ := h
  rw [heard, hcall]
  exact if_pos hname

theorem heard_of_revokes {event : TokenEvent} (h : event.Revokes username) (since : Option Clock) :
    event.heard username since = none := by
  rw [heard, show event.call = _ from h]
  exact if_pos rfl

/-- An event that neither issues nor revokes says nothing about the user. -/
theorem heard_eq_self {event : TokenEvent} (hissues : ¬event.Issues username)
    (hrevokes : ¬event.Revokes username) (since : Option Clock) :
    event.heard username since = since := by
  obtain ⟨clock, call⟩ := event
  cases call with
  | issue user => exact if_neg fun hname ↦ hissues ⟨user, rfl, hname⟩
  | parse token => rfl
  | validate token => rfl
  | revoke name => exact if_neg fun hname ↦ hrevokes (congrArg TokenCall.revoke hname)

theorem lastWord_append (past later : List TokenEvent) :
    lastWord username (past ++ later) = later.foldl (heard username) (lastWord username past) :=
  List.foldl_append

/-- A user that is live and not revoked stays live, since then or since a later event. -/
theorem foldl_heard_of_not_revoked {events : List TokenEvent}
    (h : ∀ event ∈ events, ¬event.Revokes username) (start : Clock) :
    ∃ since ∈ start :: events.map clock,
      events.foldl (heard username) (some start) = some since := by
  induction events generalizing start with
  | nil => exact ⟨start, List.mem_cons_self, rfl⟩
  | cons event events ih =>
    obtain ⟨hevent, hevents⟩ := List.forall_mem_cons.mp h
    by_cases hissues : event.Issues username
    · obtain ⟨since, hmem, hsince⟩ := ih hevents event.clock
      refine ⟨since, List.mem_cons_of_mem _ hmem, ?_⟩
      rw [List.foldl_cons, heard_of_issues hissues, hsince]
    · obtain ⟨since, hmem, hsince⟩ := ih hevents start
      refine ⟨since, ?_, ?_⟩
      · rw [List.map_cons]
        exact List.cons_subset_cons start (List.subset_cons_self _ _) hmem
      · rw [List.foldl_cons, heard_eq_self hissues hevent, hsince]

/-- After an issue that no revocation followed, the user is live since then or later. -/
theorem lastWord_of_not_revoked {past since : List TokenEvent} {event : TokenEvent}
    (hissues : event.Issues username) (h : ∀ event ∈ since, ¬event.Revokes username) :
    ∃ start ∈ event.clock :: since.map clock,
      lastWord username (past ++ event :: since) = some start := by
  rw [lastWord_append, List.foldl_cons, heard_of_issues hissues]
  exact foldl_heard_of_not_revoked h event.clock

/-- After a revocation that no issue followed, the user is not live. -/
theorem lastWord_of_not_issued {past since : List TokenEvent} {event : TokenEvent}
    (hrevokes : event.Revokes username) (h : ∀ event ∈ since, ¬event.Issues username) :
    lastWord username (past ++ event :: since) = none := by
  rw [lastWord_append, List.foldl_cons, heard_of_revokes hrevokes]
  induction since with
  | nil => rfl
  | cons event since ih =>
    obtain ⟨hevent, hsince⟩ := List.forall_mem_cons.mp h
    by_cases hrevoked : event.Revokes username
    · rw [List.foldl_cons, heard_of_revokes hrevoked, ih hsince]
    · rw [List.foldl_cons, heard_eq_self hevent hrevoked, ih hsince]

/-- What does not concern a user leaves no trace in the last word about it. -/
theorem lastWord_filter_concerns (username : String) (past : List TokenEvent) :
    lastWord username (past.filter (concerns username)) = lastWord username past := by
  rw [lastWord, lastWord, List.foldl_filter]
  congr 1
  funext since event
  by_cases hconcerns : event.concerns username = true
  · rw [if_pos hconcerns]
  · rw [if_neg hconcerns, heard_eq_self]
    · rintro ⟨user, hcall, hname⟩
      exact hconcerns (by rw [concerns, hcall]; exact beq_iff_eq.mpr hname)
    · intro hcall
      exact hconcerns (by rw [concerns, show event.call = _ from hcall]; exact beq_self_eq_true _)

end TokenEvent

open TokenEvent (lastWord)

/-- Until now the clock never ran backwards, and it stayed between the epoch and the end of time. -/
structure Advancing (past : List TokenEvent) (now : Clock) : Prop where
  ordered : (past.map TokenEvent.clock ++ [now]).Pairwise
    fun earlier later ↦ earlier.millis ≤ later.millis
  inRange : ∀ reading ∈ past.map TokenEvent.clock ++ [now],
    0 ≤ reading.millis ∧ reading.millis < maxInt64

namespace Advancing

theorem of_concat {past : List TokenEvent} {event : TokenEvent} {now : Clock}
    (h : Advancing (past ++ [event]) now) :
    Advancing past event.clock ∧ event.clock.millis ≤ now.millis := by
  obtain ⟨hordered, hinRange⟩ := h
  simp only [List.map_append, List.map_cons, List.map_nil] at hordered hinRange
  obtain ⟨hpast, -, hlast⟩ := List.pairwise_append.mp hordered
  exact ⟨⟨hpast, fun reading hmem ↦ hinRange reading (List.mem_append_left _ hmem)⟩,
    hlast event.clock (by simp) now (by simp)⟩

/-- Nothing that comes after an event has an earlier clock. -/
theorem le_of_mem {past since : List TokenEvent} {event : TokenEvent} {now later : Clock}
    (h : Advancing (past ++ event :: since) now)
    (hmem : later ∈ since.map TokenEvent.clock ++ [now]) :
    event.clock.millis ≤ later.millis := by
  have hordered := h.ordered
  rw [List.map_append, List.append_assoc, List.map_cons, List.cons_append] at hordered
  exact List.rel_of_pairwise_cons (List.pairwise_append.mp hordered).2.1 hmem

theorem nonneg {past since : List TokenEvent} {event : TokenEvent} {now : Clock}
    (h : Advancing (past ++ event :: since) now) : 0 ≤ event.clock.millis :=
  (h.inRange event.clock (by simp)).1

theorem lt_maxInt64 {past : List TokenEvent} {now : Clock} (h : Advancing past now) :
    now.millis < maxInt64 :=
  (h.inRange now (by simp)).2

end Advancing

namespace Authenticator

/-- The cache after an event. -/
def perform (auth : Authenticator) (cache : LivenessCache) (event : TokenEvent) : LivenessCache :=
  match event.call with
  | .issue user => (auth.issue event.clock user cache).2
  | .parse _ => cache
  | .validate token => (auth.validate event.clock token cache).2
  | .revoke username => (auth.revoke event.clock username cache).2

/-- The cache after a history that started without keys. -/
def cacheAfter (auth : Authenticator) (past : List TokenEvent) : LivenessCache :=
  past.foldl auth.perform .empty

/-- The token that is issued for a user after a history. -/
def issued (auth : Authenticator) (past : List TokenEvent) (now : Clock) (user : Principal) :
    Except Failure String :=
  (auth.issue now user (auth.cacheAfter past)).1

/-- What a validation after a history tells about a token. -/
def judge (auth : Authenticator) (past : List TokenEvent) (now : Clock) (token : String) :
    Except Failure Claims :=
  (auth.validate now token (auth.cacheAfter past)).1

/-! ### The cache keeps the last word -/

variable {auth : Authenticator} {username : String}

theorem livenessKey_inj {left right : String} :
    livenessKey left = livenessKey right ↔ left = right := by
  rw [livenessKey, livenessKey, ← String.toList_inj, ← String.toList_inj, String.toList_append,
    String.toList_append, List.append_right_inj]

/-- The instant at which a user that is live since some instant is no longer live. -/
def liveUntil (auth : Authenticator) (since : Clock) : Int :=
  LivenessCache.expiry since auth.livenessSeconds

/-- From an instant on, a user is live in the cache exactly as the last word about it says. -/
def Tracks (auth : Authenticator) (username : String) (since : Option Clock) (now : Clock)
    (cache : LivenessCache) : Prop :=
  ∀ later : Clock, now.millis ≤ later.millis →
    (cache.Live later (livenessKey username) ↔ ∃ start ∈ since, later.millis < auth.liveUntil start)

theorem Tracks.mono {since : Option Clock} {now next : Clock} {cache : LivenessCache}
    (h : auth.Tracks username since now cache) (hnext : now.millis ≤ next.millis) :
    auth.Tracks username since next cache :=
  fun later hlater ↦ h later (Int.le_trans hnext hlater)

/-- A validation leaves the cache as it is, or looks one key up. -/
theorem cache_validate (auth : Authenticator) (clock : Clock) (token : String)
    (cache : LivenessCache) :
    (auth.validate clock token cache).2 = cache ∨
      ∃ key, (auth.validate clock token cache).2 = (cache.contains clock key).2 := by
  unfold validate
  cases auth.parse clock token with
  | error cause => exact .inl rfl
  | ok claims =>
    refine .inr ⟨livenessKey claims.username, ?_⟩
    simp only [LivenessStore.contains]
    rcases hfound : cache.contains clock (livenessKey claims.username) with ⟨found, after⟩
    cases found <;> rfl

/-- Every event keeps the cache in step with the last word. -/
theorem Tracks.perform {since : Option Clock} {cache : LivenessCache} {event : TokenEvent}
    (h : auth.Tracks username since event.clock cache) :
    auth.Tracks username (event.heard username since) event.clock (auth.perform cache event) := by
  obtain ⟨clock, call⟩ := event
  intro later hlater
  cases call with
  | issue user =>
    have hset : (auth.perform cache ⟨clock, .issue user⟩) =
        cache.set clock (livenessKey user.username) auth.livenessSeconds := rfl
    rw [hset, LivenessCache.live_set_iff]
    simp only [livenessKey_inj]
    by_cases huser : user.username = username
    · simp [TokenEvent.heard, huser, liveUntil]
    · simp only [TokenEvent.heard, if_neg huser]
      exact h later hlater
  | parse token => exact h later hlater
  | validate token =>
    rcases cache_validate auth clock token cache with hsame | ⟨key, hlookup⟩
    · have hkept : auth.perform cache ⟨clock, .validate token⟩ = cache := hsame
      rw [hkept]
      exact h later hlater
    · have hlooked : auth.perform cache ⟨clock, .validate token⟩ = (cache.contains clock key).2 :=
        hlookup
      rw [hlooked, LivenessCache.live_contains_iff hlater]
      exact h later hlater
  | revoke name =>
    have hremoved : auth.perform cache ⟨clock, .revoke name⟩ =
        (cache.remove (livenessKey name)).2 := rfl
    rw [hremoved, LivenessCache.live_remove_iff, ne_eq, livenessKey_inj]
    by_cases hname : name = username
    · simp [TokenEvent.heard, hname]
    · simp only [TokenEvent.heard, hname, not_false_eq_true, true_and]
      exact h later hlater

/-- The cache behind a history knows the last word about every user. -/
theorem tracks_cacheAfter (auth : Authenticator) (username : String) {past : List TokenEvent}
    {now : Clock} (h : Advancing past now) :
    auth.Tracks username (lastWord username past) now (auth.cacheAfter past) := by
  induction past using List.reverseRecOn generalizing now with
  | nil =>
    intro later _
    simp [cacheAfter, lastWord, LivenessCache.Live, LivenessCache.empty]
  | append_singleton past event ih =>
    obtain ⟨hpast, hnow⟩ := h.of_concat
    rw [cacheAfter, lastWord, List.foldl_concat, List.foldl_concat]
    exact (ih hpast).perform.mono hnow

/-- The last word about a user says that it is live now. -/
def isLive (auth : Authenticator) (username : String) (past : List TokenEvent) (now : Clock) :
    Bool :=
  (lastWord username past).any fun start ↦ now.millis < auth.liveUntil start

/-- A validation tells what `parse` tells, as long as the user is live. -/
theorem judge_eq {past : List TokenEvent} {now : Clock} (h : Advancing past now) (token : String) :
    auth.judge past now token =
      match auth.parse now token with
      | .error cause => .error (.token cause)
      | .ok claims =>
        if auth.isLive claims.username past now then .ok claims else .error (.token .invalid) := by
  unfold judge validate
  cases auth.parse now token with
  | error cause => rfl
  | ok claims =>
    have hlive : ((auth.cacheAfter past).contains now (livenessKey claims.username)).1 =
        auth.isLive claims.username past now := by
      rw [Bool.eq_iff_iff, LivenessCache.contains_eq_true_iff,
        auth.tracks_cacheAfter claims.username h now (Int.le_refl _), isLive, Option.any_eq_true]
      simp
    simp only [LivenessStore.contains, ← hlive]
    rcases (auth.cacheAfter past).contains now (livenessKey claims.username) with ⟨found, after⟩
    cases found <;> rfl

/-! ### A token and the key that came with it -/

/-- A token is valid through the last millisecond of the second that it names. -/
theorem parse_sign_claimsFor (auth : Authenticator) {start now : Clock} {user : Principal}
    (huser : user.userId ≤ maxUnsigned64) (hstart : 0 ≤ start.millis)
    (hnow : start.millis ≤ now.millis) (hend : now.millis < maxInt64) :
    auth.parse now (WebToken.sign auth.key (auth.claimsFor start user).toJson) =
      if now.millis < ((auth.claimsFor start user).expiresAt + 1) * 1000 then
        .ok (auth.claimsFor start user)
      else .error .expired := by
  have hword : InWord start.millis := by
    unfold InWord minInt64
    unfold maxInt64 at hend ⊢
    omega
  have hbegun : ¬now.seconds < start.seconds := by
    unfold Clock.seconds
    omega
  have hlasting : (auth.claimsFor start user).expiresAt < now.seconds ↔
      ¬now.millis < ((auth.claimsFor start user).expiresAt + 1) * 1000 := by
    rw [Clock.seconds]
    omega
  rw [auth.parse_claimsFor huser hword, if_neg hbegun, ← auth.expiresAt_claimsFor user hword]
  simp only [hlasting]
  split_ifs <;> rfl

/-- A key that is kept from the issue of a token on, or from a later issue on, is there as long as
the token is valid. -/
theorem lt_liveUntil {start since now : Clock} {user : Principal} (hstart : 0 ≤ start.millis)
    (hsince : start.millis ≤ since.millis) (hend : now.millis < maxInt64)
    (hvalid : now.millis < ((auth.claimsFor start user).expiresAt + 1) * 1000) :
    now.millis < auth.liveUntil since := by
  have hseconds : now.seconds ≤
      clamp64 (start.seconds + min (auth.ttlSeconds : Int) maxInt64) := by
    have hexpires : (auth.claimsFor start user).expiresAt =
        clamp64 (start.seconds + min (auth.ttlSeconds : Int) maxInt64) := rfl
    rw [hexpires] at hvalid
    rw [show now.seconds = now.millis / 1000 from rfl]
    omega
  calc now.millis < LivenessCache.expiry start auth.livenessSeconds :=
        LivenessCache.lt_expiry hstart hend hseconds
    _ ≤ LivenessCache.expiry since auth.livenessSeconds := LivenessCache.expiry_mono hsince _

/-- What holds of the tokens of an authenticator at the end of a history. -/
structure Faithful (auth : Authenticator) (past : List TokenEvent) (now : Clock) : Prop where
  /-- Issuing a token succeeds. Until the user is revoked, validating the token is parsing it, and
  it is valid through the last millisecond of its last second. -/
  issued : ∀ (before since : List TokenEvent) (start : Clock) (user : Principal),
    user.userId ≤ maxUnsigned64 → past = before ++ ⟨start, .issue user⟩ :: since →
    ∃ token, auth.issued before start user = .ok token ∧
      ((∀ event ∈ since, ¬event.Revokes user.username) →
        auth.judge past now token = (auth.parse now token).mapError .token ∧
        auth.parse now token =
          if now.millis < ((auth.claimsFor start user).expiresAt + 1) * 1000 then
            .ok (auth.claimsFor start user)
          else .error .expired)
  /-- Since a revocation, every token of the user is refused, until the next one is issued. -/
  revoked : ∀ (before since : List TokenEvent) (stop : Clock) (username token : String)
      (claims : Claims),
    past = before ++ ⟨stop, .revoke username⟩ :: since →
    (∀ event ∈ since, ¬event.Issues username) →
    auth.parse now token = .ok claims → claims.username = username →
    auth.judge past now token = .error (.token .invalid)
  /-- What is done about other users makes no difference. -/
  apart : ∀ (other : List TokenEvent) (username token : String),
    Advancing other now →
    other.filter (TokenEvent.concerns username) = past.filter (TokenEvent.concerns username) →
    (∀ claims, auth.parse now token = .ok claims → claims.username = username) →
    auth.judge other now token = auth.judge past now token

/-- While a token is valid, its user is live, if no revocation followed its issue or a later one. -/
theorem isLive_of_not_revoked {past since : List TokenEvent} {event : TokenEvent}
    {start now : Clock} {user : Principal} (h : Advancing (past ++ event :: since) now)
    (hissues : event.Issues user.username)
    (hkept : ∀ event ∈ since, ¬event.Revokes user.username) (hstart : 0 ≤ start.millis)
    (hevent : start.millis ≤ event.clock.millis)
    (hvalid : now.millis < ((auth.claimsFor start user).expiresAt + 1) * 1000) :
    auth.isLive user.username (past ++ event :: since) now = true := by
  obtain ⟨word, hmem, hword⟩ := TokenEvent.lastWord_of_not_revoked hissues hkept
  have hlater : event.clock.millis ≤ word.millis := by
    rcases List.mem_cons.mp hmem with rfl | hmem
    · exact Int.le_refl _
    · exact h.le_of_mem (List.mem_append_left _ hmem)
  have hlive : now.millis < auth.liveUntil word :=
    lt_liveUntil hstart (Int.le_trans hevent hlater) h.lt_maxInt64 hvalid
  rw [isLive, hword, Option.any_some]
  exact decide_eq_true hlive

/-- After every history with an advancing clock, validating follows parsing until a revocation. -/
theorem faithful_of_advancing (auth : Authenticator) {past : List TokenEvent} {now : Clock}
    (h : Advancing past now) : auth.Faithful past now where
  issued before since start user huser hpast := by
    refine ⟨WebToken.sign auth.key (auth.claimsFor start user).toJson, rfl, fun hkept ↦ ?_⟩
    subst hpast
    have hnow : start.millis ≤ now.millis := h.le_of_mem (by simp)
    have hparse := auth.parse_sign_claimsFor huser h.nonneg hnow h.lt_maxInt64
    refine ⟨?_, hparse⟩
    rw [judge_eq h, hparse]
    by_cases hvalid : now.millis < ((auth.claimsFor start user).expiresAt + 1) * 1000
    · have hlive : auth.isLive (auth.claimsFor start user).username _ now = true :=
        isLive_of_not_revoked h ⟨user, rfl, rfl⟩ hkept h.nonneg (Int.le_refl _) hvalid
      rw [if_pos hvalid]
      simp only [hlive]
      rfl
    · rw [if_neg hvalid]
      rfl
  revoked before since stop username token claims hpast hkept hparse hname := by
    subst hpast hname
    rw [judge_eq h, hparse]
    have hrevokes : TokenEvent.Revokes claims.username ⟨stop, .revoke claims.username⟩ := rfl
    simp only [isLive, TokenEvent.lastWord_of_not_issued hrevokes hkept]
    rfl
  apart other username token hother hsame hparse := by
    rw [judge_eq h, judge_eq hother]
    cases hclaims : auth.parse now token with
    | error cause => rfl
    | ok claims =>
      have hword : lastWord username other = lastWord username past := by
        rw [← TokenEvent.lastWord_filter_concerns, hsame, TokenEvent.lastWord_filter_concerns]
      simp only [isLive, hparse claims hclaims, hword]

/-- A token that was issued in the middle of a second is accepted in the last millisecond of its
last one, although another user was revoked. -/
theorem faithful_of_advancing_last_millisecond :
    let auth : Authenticator := ⟨"broker", 60, []⟩
    let past : List TokenEvent :=
      [⟨⟨1700000000500⟩, .issue ⟨1, "alice"⟩⟩, ⟨⟨1700000001000⟩, .issue ⟨2, "bob"⟩⟩,
        ⟨⟨1700000002000⟩, .revoke "bob"⟩]
    let now : Clock := ⟨1700000060999⟩
    Advancing past now ∧ auth.Faithful past now ∧
      ∃ token, auth.issued [] ⟨1700000000500⟩ ⟨1, "alice"⟩ = .ok token ∧
        auth.judge past now token = .ok (auth.claimsFor ⟨1700000000500⟩ ⟨1, "alice"⟩) := by
  intro auth past now
  have h : Advancing past now := ⟨by decide, by decide⟩
  have hfaithful : auth.Faithful past now := faithful_of_advancing auth h
  obtain ⟨token, hissued, hkept⟩ :=
    hfaithful.issued [] past.tail ⟨1700000000500⟩ ⟨1, "alice"⟩ (by decide) rfl
  obtain ⟨hjudged, hparsed⟩ := hkept (by simp [past, TokenEvent.Revokes])
  rw [hparsed, if_pos (by decide)] at hjudged
  exact ⟨h, hfaithful, token, hissued, hjudged⟩

end Authenticator

end StompBroker
