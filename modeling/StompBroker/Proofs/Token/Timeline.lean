import StompBroker.Proofs.Token.Authenticator
import StompBroker.Proofs.Token.Claims

/-!
# A token from its issue to its end

The clock is a signed number of milliseconds and tokens count whole seconds, so an issue before the
epoch, or one whose end lies beyond the last second there is, has to come out right as well. Any
instant of the clock makes claims whose numbers fit in their words (`sized_claimsFor`), and clamping
the end from below as well changes nothing (`expiresAt_claimsFor`).

Signing and reading give back these claims whoever the user is. What `parse` answers then depends on
the second in which it is asked: it comes before the issue, after the end, or between them
(`parse_claimsFor`). An authenticator of another issuer refuses the token in every second, although
it has the key (`parse_claimsFor_of_ne`). `Timeline` has all of that for a token that was issued.
-/

set_option autoImplicit false

namespace StompBroker

/-! ### Numbers in their words -/

theorem inWord_clamp64 (value : Int) : InWord (clamp64 value) := by
  unfold InWord clamp64 minInt64 maxInt64
  omega

theorem Clock.inWord_seconds {clock : Clock} (h : InWord clock.millis) : InWord clock.seconds := by
  unfold InWord minInt64 maxInt64 at h ⊢
  unfold seconds
  omega

/-! ### Another issuer -/

/-- Claims are for one issuer only. -/
theorem WebToken.readClaims_toJson_of_ne {claims : Claims} (h : claims.Sized) {issuer : String}
    (hissuer : claims.issuer ≠ issuer) :
    readClaims issuer (writePart (Json.write claims.toJson)) = .error .invalid := by
  rw [readClaims, readPart_shape h, readPart_registered h]
  simp only [bind, Except.bind, Claims.ofJson?_toJson, bne_iff_ne.mpr hissuer]
  rfl

namespace Authenticator

variable {start now : Clock} {user : Principal}

/-- The numbers in a token fit, if the user's does and the clock is in range. -/
theorem sized_claimsFor (auth : Authenticator) (huser : user.userId ≤ maxUnsigned64)
    (hstart : InWord start.millis) : (auth.claimsFor start user).Sized :=
  ⟨huser, Clock.inWord_seconds hstart, Clock.inWord_seconds hstart, inWord_clamp64 _⟩

/-! ### Before, inside, after -/

/-- The last second in which a token is valid. -/
def lastSecond (auth : Authenticator) (start : Clock) : Int :=
  min (start.seconds + min (auth.ttlSeconds : Int) maxInt64) maxInt64

/-- A token never ends before it begins. -/
theorem seconds_le_lastSecond (auth : Authenticator) (hstart : InWord start.millis) :
    start.seconds ≤ auth.lastSecond start := by
  have hseconds := (Clock.inWord_seconds hstart).2
  unfold lastSecond
  unfold maxInt64 at hseconds ⊢
  omega

theorem expiresAt_claimsFor (auth : Authenticator) (user : Principal)
    (hstart : InWord start.millis) :
    (auth.claimsFor start user).expiresAt = auth.lastSecond start := by
  have hleast := Int.le_trans (Clock.inWord_seconds hstart).1 (auth.seconds_le_lastSecond hstart)
  exact Int.max_eq_right hleast

/-- What a token tells, second by second. -/
theorem parse_claimsFor (auth : Authenticator) (huser : user.userId ≤ maxUnsigned64)
    (hstart : InWord start.millis) :
    auth.parse now (WebToken.sign auth.key (auth.claimsFor start user).toJson) =
      if now.seconds < start.seconds then .error .notYetValid
      else if auth.lastSecond start < now.seconds then .error .expired
      else .ok (auth.claimsFor start user) := by
  have hissuer : (auth.claimsFor start user).issuer = auth.issuer := rfl
  have hbegin : (auth.claimsFor start user).notBefore = start.seconds := rfl
  rw [parse, ← hissuer, WebToken.verify_sign_toJson auth.key (auth.sized_claimsFor huser hstart)]
  simp only [bind, Except.bind, hbegin, auth.expiresAt_claimsFor user hstart]
  split_ifs <;> rfl

/-- The issuer is checked before the clock. -/
theorem parse_claimsFor_of_ne (auth : Authenticator) {other : Authenticator}
    (huser : user.userId ≤ maxUnsigned64) (hstart : InWord start.millis)
    (hissuer : other.issuer ≠ auth.issuer) :
    other.parse now (WebToken.sign other.key (auth.claimsFor start user).toJson) =
      .error .invalid := by
  rw [parse, WebToken.verify_sign,
    WebToken.readClaims_toJson_of_ne (auth.sized_claimsFor huser hstart) hissuer.symm]
  rfl

/-! ### What was issued -/

/-- What a token of an authenticator tells, whenever it is read. -/
structure Timeline (auth : Authenticator) (start : Clock) (user : Principal) (token : String) :
    Prop where
  early : ∀ now : Clock, now.seconds < start.seconds → auth.parse now token = .error .notYetValid
  late : ∀ now : Clock, auth.lastSecond start < now.seconds →
    auth.parse now token = .error .expired
  valid : ∀ now : Clock, start.seconds ≤ now.seconds → now.seconds ≤ auth.lastSecond start →
    auth.parse now token =
      .ok ⟨user.userId, user.username, start.seconds, start.seconds, auth.lastSecond start,
        auth.issuer⟩
  ordered : start.seconds ≤ auth.lastSecond start
  /-- Whoever shares the key but not the name takes no token. -/
  foreign : ∀ (other : Authenticator) (now : Clock), other.key = auth.key →
    other.issuer ≠ auth.issuer → other.parse now token = .error .invalid

theorem timeline_sign (auth : Authenticator) (huser : user.userId ≤ maxUnsigned64)
    (hstart : InWord start.millis) :
    auth.Timeline start user (WebToken.sign auth.key (auth.claimsFor start user).toJson) where
  early now hearly := by rw [auth.parse_claimsFor huser hstart, if_pos hearly]
  late now hlate := by
    have hbegun : ¬now.seconds < start.seconds :=
      Int.not_lt.mpr (Int.le_trans (auth.seconds_le_lastSecond hstart) (Int.le_of_lt hlate))
    rw [auth.parse_claimsFor huser hstart, if_neg hbegun, if_pos hlate]
  valid now hbegun hlasting := by
    have hclaims : auth.claimsFor start user = ⟨user.userId, user.username, start.seconds,
        start.seconds, auth.lastSecond start, auth.issuer⟩ :=
      congrArg (Claims.mk _ _ _ _ · _) (auth.expiresAt_claimsFor user hstart)
    rw [auth.parse_claimsFor huser hstart, if_neg (Int.not_lt.mpr hbegun),
      if_neg (Int.not_lt.mpr hlasting), hclaims]
  ordered := auth.seconds_le_lastSecond hstart
  foreign other now hkey hissuer := by
    rw [← hkey]
    exact auth.parse_claimsFor_of_ne huser hstart hissuer

/-- As long as the user can be made live, a token is issued, and it tells the same user, issuer and
window in each of its seconds, and nothing in any other. -/
theorem timeline_of_issue {σ : Type} [LivenessStore σ] (auth : Authenticator) (start : Clock)
    (user : Principal) (huser : user.userId ≤ maxUnsigned64) (hstart : InWord start.millis)
    {store after : σ}
    (hstore : LivenessStore.set start (livenessKey user.username) auth.livenessSeconds store =
      (.ok (), after)) :
    ∃ token, auth.issue start user store = (.ok token, after) ∧
      auth.Timeline start user token := by
  refine ⟨_, ?_, auth.timeline_sign huser hstart⟩
  rw [issue, hstore]

/-- A token that was issued in the middle of a second before the epoch is valid in the whole of that
second, and in the last millisecond of its last one. -/
theorem timeline_of_issue_before_epoch :
    let auth : Authenticator := ⟨"broker", 60, Utf8.encode "key"⟩
    let user : Principal := ⟨maxUnsigned64, "zo\"ë\n"⟩
    let claims : Claims := ⟨maxUnsigned64, "zo\"ë\n", -2, -2, 58, "broker"⟩
    user.userId ≤ maxUnsigned64 ∧ InWord (-1500) ∧
      ∃ token after, auth.issue ⟨-1500⟩ user (⟨[]⟩ : LivenessCache) = (.ok token, after) ∧
        auth.parse ⟨-2001⟩ token = .error .notYetValid ∧
        auth.parse ⟨-2000⟩ token = .ok claims ∧ auth.parse ⟨58999⟩ token = .ok claims ∧
        auth.parse ⟨59000⟩ token = .error .expired ∧
        parse ⟨"Broker", 60, Utf8.encode "key"⟩ ⟨-1500⟩ token = .error .invalid := by
  intro auth user claims
  have hstart : InWord (-1500) := ⟨by decide, by decide⟩
  obtain ⟨token, hissue, htimeline⟩ :=
    @timeline_of_issue LivenessCache _ auth ⟨-1500⟩ user (Nat.le_refl _) hstart ⟨[]⟩ _ rfl
  exact ⟨Nat.le_refl _, hstart, token, _, hissue, htimeline.early ⟨-2001⟩ (by decide),
    htimeline.valid ⟨-2000⟩ (by decide) (by decide),
    htimeline.valid ⟨58999⟩ (by decide) (by decide), htimeline.late ⟨59000⟩ (by decide),
    htimeline.foreign ⟨"Broker", 60, Utf8.encode "key"⟩ ⟨-1500⟩ rfl (by decide)⟩

end Authenticator

end StompBroker
