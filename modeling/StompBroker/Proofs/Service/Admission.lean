import StompBroker.Proofs.Http.Access
import StompBroker.Proofs.RateLimit.Limiter
import StompBroker.Proofs.Service.Transaction
import StompBroker.Proofs.Token.Cache
import StompBroker.Token.RemoteCache

/-!
# Who gets through to a handler

In front of every handler stand the limiter, the check of tokens and the access rules. What they
come to does not depend on what stands behind them: `Gate.verdict` is either the failure that a
request is refused with, or the user that it is handed on for, with the service as it is then
(`layered_eq`). It is nothing where the limiter breaks off, which happens only if 64 bits cannot
tell how long the client was away (`breaks_iff`).

A request is handed on exactly if the limiter lets it through and either its path needs no token or
it shows one that is valid, and every rule about it lists the user (`verdict_eq_ok_iff`). The
handler learns of that user and of nobody else (`inTransaction_congr`). Every other request is
refused, for one of six reasons (`refused_of_verdict`), and leaves everything as it is but the
limiter, the log and keys of the cache that have expired (`untouched_verdict`).
-/

set_option autoImplicit false

namespace StompBroker

/-! ### What looking up a key may do to a cache -/

/-- No key expires at another instant than before, and a key that is missing now has expired. -/
def Faded (clock : Clock) (before after : String → Option Int) : Prop :=
  ∀ key, after key = before key ∨
    after key = none ∧ ∃ expiry, before key = some expiry ∧ expiry ≤ clock.millis

theorem Faded.refl (clock : Clock) (expiries : String → Option Int) :
    Faded clock expiries expiries :=
  fun _ ↦ .inl rfl

/-- A store of which is known when each of its keys expires. Asking it for a key takes nothing away
but keys that have expired, and it fails only because it does not answer. -/
class LivenessStore.Known (σ : Type) [LivenessStore σ] where
  expiry? : σ → String → Option Int
  faded_contains : ∀ (clock : Clock) (key : String) (store : σ),
    Faded clock (expiry? store) (expiry? (LivenessStore.contains clock key store).2)
  unavailable_of_error : ∀ (clock : Clock) (key : String) (store : σ) (failure : Failure),
    (LivenessStore.contains clock key store).1 = .error failure →
    ∃ reason, failure = .serviceUnavailable reason

/-- When a key expires. -/
def LivenessCache.expiry? (cache : LivenessCache) (key : String) : Option Int :=
  cache.entries.lookup key

theorem LivenessCache.faded_contains (clock : Clock) (key : String) (cache : LivenessCache) :
    Faded clock cache.expiry? (cache.contains clock key).2.expiry? := by
  unfold contains
  cases hfound : cache.entries.lookup key with
  | none => exact .refl clock _
  | some expiry =>
    by_cases hlive : clock.millis < expiry
    · simp only [if_pos hlive]
      exact .refl clock _
    · simp only [if_neg hlive]
      intro other
      have hdropped : (cache.drop key).expiry? other =
          if key = other then none else cache.expiry? other :=
        lookup_drop cache key other
      rw [hdropped]
      by_cases hother : key = other
      · subst hother
        exact .inr ⟨if_pos rfl, expiry, hfound, Int.not_lt.mp hlive⟩
      · exact .inl (if_neg hother)

instance : LivenessStore.Known LivenessCache where
  expiry? := LivenessCache.expiry?
  faded_contains clock key cache := cache.faded_contains clock key
  unavailable_of_error clock key cache failure h := by cases h

instance : LivenessStore.Known RemoteCache where
  expiry? cache := cache.held.expiry?
  faded_contains clock key cache := by
    cases hsilence : cache.silence with
    | some reason =>
      simp only [LivenessStore.contains, RemoteCache.ask, hsilence]
      exact .refl clock _
    | none =>
      simp only [LivenessStore.contains, RemoteCache.ask, hsilence]
      exact cache.held.faded_contains clock key
  unavailable_of_error clock key cache failure h := by
    cases hsilence : cache.silence with
    | some reason =>
      simp only [LivenessStore.contains, RemoteCache.ask, hsilence, Except.error.injEq] at h
      exact ⟨_, h.symm⟩
    | none =>
      simp only [LivenessStore.contains, RemoteCache.ask, hsilence] at h
      cases h

namespace Authenticator

variable {σ : Type} [LivenessStore σ] [LivenessStore.Known σ]

open LivenessStore.Known (expiry?)

theorem faded_validate (auth : Authenticator) (clock : Clock) (token : String) (store : σ) :
    Faded clock (expiry? store) (expiry? (auth.validate clock token store).2) := by
  unfold validate
  cases auth.parse clock token with
  | error cause => exact .refl clock _
  | ok claims =>
    have hfaded := LivenessStore.Known.faded_contains clock (livenessKey claims.username) store
    dsimp only
    split
    all_goals
      rename_i hcontains
      rw [hcontains] at hfaded
      exact hfaded

/-- A token is not accepted because there is something wrong with it, or because the store does not
answer. -/
theorem validate_eq_error {auth : Authenticator} {clock : Clock} {token : String} {store : σ}
    {failure : Failure} (h : (auth.validate clock token store).1 = .error failure) :
    (∃ cause, failure = .token cause) ∨ ∃ reason, failure = .serviceUnavailable reason := by
  unfold validate at h
  cases hparse : auth.parse clock token with
  | error cause =>
    rw [hparse] at h
    exact .inl ⟨cause, (Except.error.inj h).symm⟩
  | ok claims =>
    simp only [hparse] at h
    split at h
    · rename_i hcontains
      have hsame := Except.error.inj h
      have hfailed := congrArg Prod.fst hcontains
      rw [hsame] at hfailed
      exact .inr (LivenessStore.Known.unavailable_of_error clock (livenessKey claims.username)
        store failure hfailed)
    · cases h
    · exact .inl ⟨.invalid, (Except.error.inj h).symm⟩

end Authenticator

namespace Gate

variable {σ : Type}

/-! ### The ends of the way through the layers -/

/-- What the access rules come to once it is known what the token is worth. -/
def judge (request : Request) (service : Service σ) :
    Except Failure Claims × σ → Except Failure (Option Principal) × Service σ
  | (.error failure, cache) => (.error failure, { service with cache := cache })
  | (.ok claims, cache) =>
    let service := { service with cache := cache }
    if service.settings.access.isAllowed request.method request.path claims.username then
      (.ok (some claims.principal), service)
    else (.error (.forbidden request.path), service)

/-- A valid token of a user who may is worth that user. -/
theorem judge_of_permits {request : Request} (service : Service σ) {claims : Claims} (cache : σ)
    (h : service.settings.access.Permits request.method request.path claims.username) :
    judge request service (.ok claims, cache) =
      (.ok (some ⟨claims.userId, claims.username⟩), { service with cache := cache }) :=
  if_pos (AccessSettings.isAllowed_iff.mpr h)

theorem judge_of_not_permits {request : Request} (service : Service σ) {claims : Claims} (cache : σ)
    (h : ¬service.settings.access.Permits request.method request.path claims.username) :
    judge request service (.ok claims, cache) =
      (.error (.forbidden request.path), { service with cache := cache }) :=
  if_neg fun hallowed ↦ h (AccessSettings.isAllowed_iff.mp hallowed)

theorem snd_judge (request : Request) (service : Service σ)
    (validation : Except Failure Claims × σ) :
    (judge request service validation).2 = { service with cache := validation.2 } := by
  obtain ⟨failure | claims, cache⟩ := validation
  · rfl
  · unfold judge
    dsimp only
    split <;> rfl

/-- The answer to a request that is refused, and the service after it. -/
def refusedWith (failure : Failure) (request : Request) (service : Service σ) :
    Option Response × Service σ :=
  (some (.fail failure), noted request (.fail failure) service)

/-- The answer of the layers to a request that they hand on, and the service after it. -/
def handed (inner : Inner σ) (request : Request) (principal : Option Principal)
    (ready : Service σ) : Option Response × Service σ :=
  let (response, after) := recorded inner request principal ready
  (some response, noted request response after)

/-- The entry about a request and the log have no influence on the response. -/
theorem fst_handed (inner : Inner σ) (request : Request) (principal : Option Principal)
    (ready : Service σ) :
    (handed inner request principal ready).1 = some (inner principal ready).1 := by
  cases principal with
  | none => rfl
  | some user => rfl

/-! ### What the limiter says -/

/-- What the limiter says about a request. -/
def counted (request : Request) (service : Service σ) : Option Bool :=
  (service.limiter.allow service.clock request.client).1

/-- The limiter lets the request through. -/
def Lets (request : Request) (service : Service σ) : Prop := counted request service = some true

/-- The client has made too many requests. -/
def Exceeds (request : Request) (service : Service σ) : Prop := counted request service = some false

/-- The limiter breaks off. -/
def Breaks (request : Request) (service : Service σ) : Prop := counted request service = none

/-- The service once the request was counted. -/
def metered (request : Request) (service : Service σ) : Service σ :=
  { service with limiter := (service.limiter.allow service.clock request.client).2 }

/-- The limiter lets a request through, or the client has made too many, or it breaks off. -/
theorem counted_cases (request : Request) (service : Service σ) :
    Lets request service ∨ Exceeds request service ∨ Breaks request service := by
  unfold Lets Exceeds Breaks
  rcases counted request service with _ | _ | _
  · exact .inr (.inr rfl)
  · exact .inr (.inl rfl)
  · exact .inl rfl

/-- The limiter breaks off exactly if it counts the requests of the client already, and 64 bits
cannot tell the time since its bucket was refilled. -/
theorem breaks_iff {request : Request} {service : Service σ} :
    Breaks request service ↔ service.limiter.enabled = true ∧
      ∃ bucket, service.limiter.buckets.lookup request.client = some bucket ∧
        ¬InWord (service.clock.millis - bucket.refilled) :=
  RateLimiter.fst_allow_eq_none_iff

section Layers

variable [LivenessStore σ]

/-! ### The layers and what they surround -/

/-- The layers around anything that answers requests of which it is known who asks. -/
def layered (inner : Request → Inner σ) : Request → Service σ → Option Response × Service σ :=
  logged (limited fun request ↦ authenticated (recorded (inner request) request) request)

/-- The layers hand a request on for a user, if any, with the service as it is then: whatever stands
behind them is asked once, its response is that of the request, and what it leaves of the service
stays but for the entry about the request and the log. -/
def HandsOn (request : Request) (service : Service σ) (principal : Option Principal)
    (ready : Service σ) : Prop :=
  ∀ inner : Request → Inner σ,
    layered inner request service = handed (inner request) request principal ready

/-- What the check of tokens and the access rules come to. -/
def identify (request : Request) (service : Service σ) :
    Except Failure (Option Principal) × Service σ :=
  if !service.settings.access.requiresToken request.path then (.ok none, service)
  else
    match request.bearerToken? with
    | none => (.error (.unauthorized "Missing token"), service)
    | some token =>
      judge request service (service.auth.validate service.clock token service.cache)

/-- What all layers come to. -/
def verdict (request : Request) (service : Service σ) :
    Option (Except Failure (Option Principal)) × Service σ :=
  match counted request service with
  | none => (none, metered request service)
  | some false => (some (.error .tooManyRequests), metered request service)
  | some true =>
    let (outcome, after) := identify request (metered request service)
    (some outcome, after)

theorem authenticated_eq (inner : Inner σ) (request : Request) (service : Service σ) :
    authenticated inner request service =
      match identify request service with
      | (.ok principal, ready) => inner principal ready
      | (.error failure, after) => (.fail failure, after) := by
  unfold authenticated identify
  cases service.settings.access.requiresToken request.path with
  | false => rfl
  | true =>
    cases request.bearerToken? with
    | none => rfl
    | some token =>
      simp only [Bool.not_true, Bool.false_eq_true, if_false]
      generalize service.auth.validate service.clock token service.cache = validation
      obtain ⟨validated, cache⟩ := validation
      cases validated with
      | error failure => rfl
      | ok claims =>
        dsimp only [judge]
        cases service.settings.access.isAllowed request.method request.path claims.username with
        | true => rfl
        | false => rfl

/-- What the layers come to does not depend on what stands behind them. -/
theorem layered_eq (inner : Request → Inner σ) (request : Request) (service : Service σ) :
    layered inner request service =
      match verdict request service with
      | (none, after) => (none, after)
      | (some (.error failure), after) => refusedWith failure request after
      | (some (.ok principal), ready) => handed (inner request) request principal ready := by
  unfold layered logged limited verdict counted
  rcases hallow : service.limiter.allow service.clock request.client with ⟨allowed, limiter⟩
  have hmetered : metered request service = { service with limiter } := by rw [metered, hallow]
  rw [hmetered]
  cases allowed with
  | none => rfl
  | some allowed =>
    cases allowed with
    | false => rfl
    | true =>
      dsimp only
      rw [authenticated_eq]
      rcases identify request { service with limiter } with ⟨failure | principal, after⟩
      · rfl
      · rfl

theorem layered_of_none {request : Request} {service after : Service σ}
    (h : verdict request service = (none, after)) (inner : Request → Inner σ) :
    layered inner request service = (none, after) := by
  rw [layered_eq, h]

theorem handsOn_of_verdict {request : Request} {service ready : Service σ}
    {principal : Option Principal} (h : verdict request service = (some (.ok principal), ready)) :
    HandsOn request service principal ready := by
  intro inner
  rw [layered_eq, h]

theorem layered_of_verdict {request : Request} {service after : Service σ} {failure : Failure}
    (h : verdict request service = (some (.error failure), after)) (inner : Request → Inner σ) :
    layered inner request service = refusedWith failure request after := by
  rw [layered_eq, h]

/-- A request is handed on for one user, if any, and in one state of the service. -/
theorem HandsOn.unique {request : Request} {service ready ready' : Service σ}
    {principal principal' : Option Principal} (h : HandsOn request service principal ready)
    (h' : HandsOn request service principal' ready') : principal' = principal ∧ ready' = ready := by
  classical
  -- An inner service that tells this user and this state from all others.
  let probe : Request → Inner σ := fun _ asked found ↦
    (⟨if asked = principal ∧ found = ready then 200 else 404, .empty⟩, found)
  have hsame := congrArg Prod.fst ((h probe).symm.trans (h' probe))
  rw [fst_handed, fst_handed] at hsame
  have hstatus := congrArg Response.status (Option.some.inj hsame)
  simp only [probe, and_self, if_true] at hstatus
  by_contra hne
  rw [if_neg hne] at hstatus
  cases hstatus

/-- A request that is not let through, or refused, is not handed on. -/
theorem HandsOn.verdict_eq {request : Request} {service ready : Service σ}
    {principal : Option Principal} (h : HandsOn request service principal ready) :
    verdict request service = (some (.ok principal), ready) := by
  let answering (status : Nat) : Request → Inner σ := fun _ _ found ↦ (⟨status, .empty⟩, found)
  have hanswer (status : Nat) :
      (layered (answering status) request service).1 = some ⟨status, .empty⟩ := by
    rw [h (answering status), fst_handed]
  rcases hverdict : verdict request service with ⟨outcome, after⟩
  cases outcome with
  | none =>
    have hnone := hanswer 200
    rw [layered_of_none hverdict] at hnone
    cases hnone
  | some judged =>
    cases judged with
    | ok principal' =>
      obtain ⟨rfl, rfl⟩ := h.unique (handsOn_of_verdict hverdict)
      rfl
    | error failure =>
      have hstatus (status : Nat) : (Response.fail failure).status = status := by
        have hfirst := hanswer status
        rw [layered_of_verdict hverdict] at hfirst
        exact congrArg Response.status (Option.some.inj hfirst)
      cases (hstatus 200).symm.trans (hstatus 404)

/-! ### Who is let through, and for whom -/

/-- The request is for a user, if any: its path needs no token, or it shows one that is valid, and
every rule about the request lists its holder. -/
inductive Admits (request : Request) (service : Service σ) : Option Principal → Prop
  | openly (hopen : ¬service.settings.access.NeedsToken request.path) : Admits request service none
  | known {token : String} {claims : Claims}
    (hneeds : service.settings.access.NeedsToken request.path) (hshown : request.Shows token)
    (hvalid : (service.auth.validate service.clock token service.cache).1 = .ok claims)
    (hpermits : service.settings.access.Permits request.method request.path claims.username) :
    Admits request service (some ⟨claims.userId, claims.username⟩)

/-- The reasons for which a request is refused, with the status of the answer. There is none where
the limiter breaks off. -/
inductive Refused (request : Request) (service : Service σ) : Option Nat → Prop
  | broken (hbreaks : Breaks request service) : Refused request service none
  | tooMany (hexceeds : Exceeds request service) : Refused request service (some 429)
  | unshown (hneeds : service.settings.access.NeedsToken request.path)
    (hunshown : ∀ token, ¬request.Shows token) : Refused request service (some 401)
  | invalid {token : String} {cause : TokenError}
    (hneeds : service.settings.access.NeedsToken request.path) (hshown : request.Shows token)
    (hinvalid : (service.auth.validate service.clock token service.cache).1 =
      .error (.token cause)) : Refused request service (some 401)
  | unavailable {token reason : String}
    (hneeds : service.settings.access.NeedsToken request.path) (hshown : request.Shows token)
    (hunavailable : (service.auth.validate service.clock token service.cache).1 =
      .error (.serviceUnavailable reason)) : Refused request service (some 503)
  | forbidden {token : String} {claims : Claims}
    (hneeds : service.settings.access.NeedsToken request.path) (hshown : request.Shows token)
    (hvalid : (service.auth.validate service.clock token service.cache).1 = .ok claims)
    (hforbids : ¬service.settings.access.Permits request.method request.path claims.username) :
    Refused request service (some 403)

theorem identify_of_open {request : Request} (service : Service σ)
    (h : ¬service.settings.access.NeedsToken request.path) :
    identify request service = (.ok none, service) := by
  have hneeds : service.settings.access.requiresToken request.path = false :=
    Bool.eq_false_iff.mpr fun hneeded ↦ h (AccessSettings.requiresToken_iff.mp hneeded)
  rw [identify, hneeds]
  rfl

theorem identify_of_unshown {request : Request} (service : Service σ)
    (hneeds : service.settings.access.NeedsToken request.path)
    (h : ∀ token, ¬request.Shows token) :
    identify request service = (.error (.unauthorized "Missing token"), service) := by
  have htoken : request.bearerToken? = none :=
    Option.eq_none_iff_forall_ne_some.mpr fun token hshown ↦
      h token (Request.bearerToken?_eq_some_iff.mp hshown)
  rw [identify, AccessSettings.requiresToken_iff.mpr hneeds, htoken]
  rfl

theorem identify_of_shows {request : Request} (service : Service σ) {token : String}
    (hneeds : service.settings.access.NeedsToken request.path) (h : request.Shows token) :
    identify request service =
      judge request service (service.auth.validate service.clock token service.cache) := by
  rw [identify, AccessSettings.requiresToken_iff.mpr hneeds,
    Request.bearerToken?_eq_some_iff.mpr h]
  rfl

/-- A request that the limiter lets through comes without a token to a path that needs none or to
one that does, or it shows a token where one is needed. -/
theorem identify_cases (request : Request) (service : Service σ) :
    (¬service.settings.access.NeedsToken request.path ∧
        identify request service = (.ok none, service)) ∨
      (service.settings.access.NeedsToken request.path ∧ (∀ token, ¬request.Shows token) ∧
        identify request service = (.error (.unauthorized "Missing token"), service)) ∨
      ∃ token, service.settings.access.NeedsToken request.path ∧ request.Shows token ∧
        identify request service =
          judge request service (service.auth.validate service.clock token service.cache) := by
  by_cases hneeds : service.settings.access.NeedsToken request.path
  · by_cases hshown : ∃ token, request.Shows token
    · obtain ⟨token, htoken⟩ := hshown
      exact .inr (.inr ⟨token, hneeds, htoken, identify_of_shows service hneeds htoken⟩)
    · have hunshown := not_exists.mp hshown
      exact .inr (.inl ⟨hneeds, hunshown, identify_of_unshown service hneeds hunshown⟩)
  · exact .inl ⟨hneeds, identify_of_open service hneeds⟩

theorem verdict_of_lets {request : Request} {service : Service σ} (h : Lets request service) :
    verdict request service =
      (some (identify request (metered request service)).1,
        (identify request (metered request service)).2) := by
  rw [verdict, h]

theorem verdict_of_exceeds {request : Request} {service : Service σ}
    (h : Exceeds request service) :
    verdict request service = (some (.error .tooManyRequests), metered request service) := by
  rw [verdict, h]

theorem verdict_of_breaks {request : Request} {service : Service σ} (h : Breaks request service) :
    verdict request service = (none, metered request service) := by
  rw [verdict, h]

/-- A request that does not break off was let through, or its client has made too many. -/
theorem verdict_eq_some {request : Request} {service after : Service σ}
    {outcome : Except Failure (Option Principal)}
    (h : verdict request service = (some outcome, after)) :
    (Lets request service ∧ identify request (metered request service) = (outcome, after)) ∨
      (Exceeds request service ∧ outcome = .error .tooManyRequests ∧
        after = metered request service) := by
  rcases counted_cases request service with hlets | hexceeds | hbreaks
  · rw [verdict_of_lets hlets] at h
    obtain ⟨houtcome, hafter⟩ := Prod.mk.inj h
    exact .inl ⟨hlets, Prod.ext (Option.some.inj houtcome) hafter⟩
  · rw [verdict_of_exceeds hexceeds] at h
    obtain ⟨houtcome, hafter⟩ := Prod.mk.inj h
    exact .inr ⟨hexceeds, (Option.some.inj houtcome).symm, hafter.symm⟩
  · rw [verdict_of_breaks hbreaks] at h
    cases h

theorem verdict_eq_none {request : Request} {service after : Service σ}
    (h : verdict request service = (none, after)) :
    Breaks request service ∧ after = metered request service := by
  rcases counted_cases request service with hlets | hexceeds | hbreaks
  · rw [verdict_of_lets hlets] at h
    cases h
  · rw [verdict_of_exceeds hexceeds] at h
    cases h
  · rw [verdict_of_breaks hbreaks] at h
    exact ⟨hbreaks, (Prod.mk.inj h).2.symm⟩

section Known

variable [LivenessStore.Known σ]

open LivenessStore.Known (expiry?)

/-- A request that was counted is for a user, or refused for one of the reasons. -/
theorem identify_metered_cases (request : Request) (service : Service σ) :
    (∃ principal, (identify request (metered request service)).1 = .ok principal ∧
        Admits request service principal) ∨
      ∃ failure, (identify request (metered request service)).1 = .error failure ∧
        Refused request service (some failure.status) := by
  rcases identify_cases request (metered request service) with
    ⟨hopen, hidentify⟩ | ⟨hneeds, hunshown, hidentify⟩ | ⟨token, hneeds, hshown, hidentify⟩
  · rw [hidentify]
    exact .inl ⟨none, rfl, .openly hopen⟩
  · rw [hidentify]
    exact .inr ⟨_, rfl, .unshown hneeds hunshown⟩
  · rw [hidentify]
    rcases hvalidated : (metered request service).auth.validate (metered request service).clock
      token (metered request service).cache with ⟨problem | claims, cache⟩
    · have hproblem := congrArg Prod.fst hvalidated
      rcases Authenticator.validate_eq_error hproblem with ⟨cause, rfl⟩ | ⟨reason, rfl⟩
      · exact .inr ⟨_, rfl, .invalid hneeds hshown hproblem⟩
      · exact .inr ⟨_, rfl, .unavailable hneeds hshown hproblem⟩
    · have hvalid := congrArg Prod.fst hvalidated
      by_cases hpermits :
        service.settings.access.Permits request.method request.path claims.username
      · rw [judge_of_permits (metered request service) cache hpermits]
        exact .inl ⟨_, rfl, .known hneeds hshown hvalid hpermits⟩
      · rw [judge_of_not_permits (metered request service) cache hpermits]
        exact .inr ⟨_, rfl, .forbidden hneeds hshown hvalid hpermits⟩

/-- A request is let through for the user that it is for, or refused for one of the reasons, or
breaks off. -/
theorem verdict_cases (request : Request) (service : Service σ) :
    (∃ principal, (verdict request service).1 = some (.ok principal) ∧ Lets request service ∧
        Admits request service principal) ∨
      (∃ failure, (verdict request service).1 = some (.error failure) ∧
        Refused request service (some failure.status)) ∨
      (verdict request service).1 = none ∧ Refused request service none := by
  rcases counted_cases request service with hlets | hexceeds | hbreaks
  · rw [verdict_of_lets hlets]
    rcases identify_metered_cases request service with
      ⟨principal, hidentified, hadmits⟩ | ⟨failure, hidentified, hrefused⟩
    · exact .inl ⟨principal, congrArg some hidentified, hlets, hadmits⟩
    · exact .inr (.inl ⟨failure, congrArg some hidentified, hrefused⟩)
  · rw [verdict_of_exceeds hexceeds]
    exact .inr (.inl ⟨_, rfl, .tooMany hexceeds⟩)
  · rw [verdict_of_breaks hbreaks]
    exact .inr (.inr ⟨rfl, .broken hbreaks⟩)

/-- A request is handed on for a user exactly if the limiter lets it through and it is for that
user. -/
theorem verdict_eq_ok_iff {request : Request} {service : Service σ}
    {principal : Option Principal} :
    (verdict request service).1 = some (.ok principal) ↔
      Lets request service ∧ Admits request service principal := by
  constructor
  · intro h
    rcases verdict_cases request service with
      ⟨found, hfound, hlets, hadmits⟩ | ⟨_, hfailed, -⟩ | ⟨hnone, -⟩
    · obtain rfl : found = principal := Except.ok.inj (Option.some.inj (hfound.symm.trans h))
      exact ⟨hlets, hadmits⟩
    · rw [h] at hfailed
      cases hfailed
    · rw [h] at hnone
      cases hnone
  · rintro ⟨hlets, hadmits⟩
    rw [verdict_of_lets hlets]
    cases hadmits with
    | openly hopen => rw [identify_of_open (metered request service) hopen]
    | @known token claims hneeds hshown hvalid hpermits =>
      rw [identify_of_shows (metered request service) hneeds hshown]
      rcases hvalidated : (metered request service).auth.validate (metered request service).clock
        token (metered request service).cache with ⟨validated, cache⟩
      have hclaims : validated = .ok claims := (congrArg Prod.fst hvalidated).symm.trans hvalid
      rw [hclaims, judge_of_permits (metered request service) cache hpermits]

/-- A request that is not handed on is refused for one of the reasons. -/
theorem refused_of_verdict {request : Request} {service : Service σ} {failure : Failure}
    (h : (verdict request service).1 = some (.error failure)) :
    Refused request service (some failure.status) := by
  rcases verdict_cases request service with
    ⟨_, hok, -⟩ | ⟨found, hfound, hrefused⟩ | ⟨hnone, -⟩
  · rw [h] at hok
    cases hok
  · obtain rfl : found = failure := Except.error.inj (Option.some.inj (hfound.symm.trans h))
    exact hrefused
  · rw [h] at hnone
    cases hnone

/-- All is as before, except for the limiter, the log and keys of the cache that have expired. -/
structure Untouched (before after : Service σ) : Prop where
  same : after =
    { before with limiter := after.limiter, cache := after.cache, log := after.log }
  faded : Faded before.clock (expiry? before.cache) (expiry? after.cache)

theorem Untouched.withLog {before after : Service σ} (h : Untouched before after)
    (log : List LogEvent) : Untouched before { after with log := log } :=
  ⟨congrArg (fun service : Service σ ↦ { service with log := log }) h.same, h.faded⟩

/-- The layers on their own touch nothing. -/
theorem untouched_verdict (request : Request) (service : Service σ) :
    Untouched service (verdict request service).2 ∧
      (verdict request service).2.log = service.log := by
  have hmetered : Untouched service (metered request service) := ⟨rfl, .refl service.clock _⟩
  rcases counted_cases request service with hlets | hexceeds | hbreaks
  · rw [verdict_of_lets hlets]
    rcases identify_cases request (metered request service) with
      ⟨-, hidentify⟩ | ⟨-, -, hidentify⟩ | ⟨token, -, -, hidentify⟩
    · rw [hidentify]
      exact ⟨hmetered, rfl⟩
    · rw [hidentify]
      exact ⟨hmetered, rfl⟩
    · rw [hidentify, snd_judge]
      exact ⟨⟨rfl, service.auth.faded_validate service.clock token service.cache⟩, rfl⟩
  · rw [verdict_of_exceeds hexceeds]
    exact ⟨hmetered, rfl⟩
  · rw [verdict_of_breaks hbreaks]
    exact ⟨hmetered, rfl⟩

end Known

end Layers

/-! ### What the handler learns -/

/-- Handlers that do the same for a user do the same in the transaction of the request, so a handler
learns of no other user. -/
theorem inTransaction_congr {principal : Option Principal} {handler other : Handler σ}
    (h : ∀ context : Context, context.principal = principal → handler context = other context)
    (request : Request) (service : Service σ) :
    inTransaction handler request principal service =
      inTransaction other request principal service := by
  have halone := h { principal } rfl
  have hinside (id : TransactionId) := h { principal, transaction := some id } rfl
  simp only [inTransaction, halone, hinside]

section Guards

variable [LivenessStore σ] [LivenessStore.Known σ]

/-- What the layers do for the handler of a request. -/
structure Guards (request : Request) (service : Service σ) : Prop where
  /-- A handler is reached through them only. -/
  around : ∀ handler : Handler σ,
    guarded handler request service = layered (inTransaction handler) request service
  /-- A request is handed on exactly if it is let through, for the user that it is for. -/
  handsOn_iff : ∀ principal : Option Principal,
    (∃ ready, HandsOn request service principal ready) ↔
      Lets request service ∧ Admits request service principal
  /-- It is handed on before anything else is done. -/
  ready : ∀ (principal : Option Principal) (ready : Service σ),
    HandsOn request service principal ready → Untouched service ready ∧ ready.log = service.log
  /-- The handler learns of that user and of no other. -/
  informed : ∀ (principal : Option Principal) (handler other : Handler σ),
    (∀ context : Context, context.principal = principal → handler context = other context) →
    ∀ ready, inTransaction handler request principal ready =
      inTransaction other request principal ready
  /-- A request that is not handed on is refused for a reason, whatever stands behind the layers,
  and nothing is touched. -/
  refused : (∀ principal ready, ¬HandsOn request service principal ready) →
    ∃ (response : Option Response) (after : Service σ),
      (∀ inner, layered inner request service = (response, after)) ∧
        Refused request service (response.map Response.status) ∧ Untouched service after

/-- Every request to a path behind the layers is handed on or refused as it should be. -/
theorem guards (request : Request) (service : Service σ) : Guards request service := by
  obtain ⟨huntouched, hlog⟩ := untouched_verdict request service
  constructor
  case around => exact fun handler ↦ rfl
  case handsOn_iff =>
    intro principal
    rw [← verdict_eq_ok_iff]
    constructor
    · rintro ⟨ready, hhandsOn⟩
      rw [hhandsOn.verdict_eq]
    · intro hok
      exact ⟨(verdict request service).2, handsOn_of_verdict (Prod.ext hok rfl)⟩
  case ready =>
    intro principal ready hhandsOn
    rw [hhandsOn.verdict_eq] at huntouched hlog
    exact ⟨huntouched, hlog⟩
  case informed =>
    intro principal handler other hsame ready
    exact inTransaction_congr hsame request ready
  case refused =>
    intro hnone
    rcases verdict_cases request service with
      ⟨principal, hok, -⟩ | ⟨failure, hfailed, hrefused⟩ | ⟨hbroken, hrefused⟩
    · exact absurd (handsOn_of_verdict (Prod.ext hok rfl)) (hnone principal _)
    · exact ⟨_, _, layered_of_verdict (Prod.ext hfailed rfl), hrefused, huntouched.withLog _⟩
    · exact ⟨_, _, layered_of_none (Prod.ext hbroken rfl), hrefused, huntouched⟩

/-- Without a token, nobody sees the notices. -/
theorem guards_stranger :
    let service : Service LivenessCache :=
      Service.start {} ⟨1700000000000⟩ LivenessCache.empty
    let request : Request := { path := "/api/v1/notices" }
    Guards request service ∧ ∃ (response : Response) (after : Service LivenessCache),
      (∀ inner, layered inner request service = (some response, after)) ∧
        Refused request service (some response.status) ∧ Untouched service after := by
  intro service request
  have hguards : Guards request service := guards request service
  have htoken : request.bearerToken? = none := by decide
  have hneeds : service.settings.access.requiresToken request.path = true := by decide
  obtain ⟨response, after, hlayered, hrefused, huntouched⟩ :=
    hguards.refused fun principal ready hhandsOn ↦ by
      obtain ⟨-, hadmits⟩ := (hguards.handsOn_iff principal).mp ⟨ready, hhandsOn⟩
      cases hadmits with
      | openly hopen => exact hopen (AccessSettings.requiresToken_iff.mp hneeds)
      | known _ hshown =>
        rw [Request.bearerToken?_eq_some_iff.mpr hshown] at htoken
        cases htoken
  cases response with
  | some response => exact ⟨hguards, response, after, hlayered, hrefused, huntouched⟩
  | none =>
    cases hrefused with
    | broken hbreaks =>
      obtain ⟨-, bucket, hfound, -⟩ := breaks_iff.mp hbreaks
      cases hfound

end Guards

end Gate

end StompBroker
