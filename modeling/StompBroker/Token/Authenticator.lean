import StompBroker.Number.Bounds
import StompBroker.Token.Cache
import StompBroker.Token.Web

/-!
# Issuing and checking tokens

An `Authenticator` signs tokens for users and reads them back. `parse` checks the signature, the
issuer and the time window, in whole seconds and with both ends included. `validate` also asks the
cache whether the user is live: `issue` makes a user live for as long as the new token lasts, and
`revoke` ends all tokens of a user at once.

The cache is anything that can keep a key for some time (`LivenessStore`); asking it may fail.
-/

set_option autoImplicit false

namespace StompBroker

/-- A store of keys that expire. -/
class LivenessStore (σ : Type) where
  /-- Keeps a key for so many seconds. -/
  set : Clock → String → Nat → σ → Except Failure Unit × σ
  /-- Tells whether a key is there. -/
  contains : Clock → String → σ → Except Failure Bool × σ
  /-- Removes a key and tells whether it was there. -/
  remove : Clock → String → σ → Except Failure Bool × σ

instance : LivenessStore LivenessCache where
  set clock key seconds cache := (.ok (), cache.set clock key seconds)
  contains clock key cache := ((cache.contains clock key).map .ok id)
  remove _ key cache := ((cache.remove key).map .ok id)

/-- The user that a token is for. -/
structure Principal where
  userId : Nat
  username : String
  deriving DecidableEq, Repr

/-- The holder of a token. -/
def Claims.principal (claims : Claims) : Principal := ⟨claims.userId, claims.username⟩

/-- Who signs tokens, and for how long. -/
structure Authenticator where
  issuer : String
  ttlSeconds : Nat
  key : Bytes
  deriving Repr

/-- The key under which a user is live. -/
def livenessKey (username : String) : String := "auth:" ++ username

namespace Authenticator

/-- An authenticator whose key is the secret, or derived from the issuer's name without one. -/
def ofIssuer (issuer : String) (secret : Option String) (ttlSeconds : Nat) : Authenticator :=
  let named := "Jwt:" ++ issuer
  let key := match secret with
    | some secret => if secret.isEmpty then named else secret
    | none => named
  { issuer, ttlSeconds, key := Utf8.encode key }

/-- The claims of a token issued now. -/
def claimsFor (auth : Authenticator) (clock : Clock) (user : Principal) : Claims :=
  let now := clock.seconds
  { userId := user.userId, username := user.username, issuedAt := now, notBefore := now
    expiresAt := clamp64 (now + min (auth.ttlSeconds : Int) maxInt64), issuer := auth.issuer }

/-- A token outlives the instant of its issue by this many seconds more than it says, because it
stays valid through its last second. -/
def graceSeconds : Nat := 1

/-- How long a user is live after a token was issued. -/
def livenessSeconds (auth : Authenticator) : Nat :=
  min (auth.ttlSeconds + graceSeconds) maxUnsigned64

/-- The claims of a token that is valid now. -/
def parse (auth : Authenticator) (clock : Clock) (token : String) : Except TokenError Claims := do
  let claims ← WebToken.verify auth.key auth.issuer token
  if clock.seconds < claims.notBefore then throw .notYetValid
  if claims.expiresAt < clock.seconds then throw .expired
  return claims

variable {σ : Type} [LivenessStore σ]

/-- Signs a token for a user and makes the user live. -/
def issue (auth : Authenticator) (clock : Clock) (user : Principal) (store : σ) :
    Except Failure String × σ :=
  let token := WebToken.sign auth.key (auth.claimsFor clock user).toJson
  match LivenessStore.set clock (livenessKey user.username) auth.livenessSeconds store with
  | (.ok (), store) => (.ok token, store)
  | (.error failure, store) => (.error failure, store)

/-- The claims of a token that is valid now and whose user is live. -/
def validate (auth : Authenticator) (clock : Clock) (token : String) (store : σ) :
    Except Failure Claims × σ :=
  match auth.parse clock token with
  | .error cause => (.error (.token cause), store)
  | .ok claims =>
    match LivenessStore.contains clock (livenessKey claims.username) store with
    | (.error failure, store) => (.error failure, store)
    | (.ok true, store) => (.ok claims, store)
    | (.ok false, store) => (.error (.token .invalid), store)

/-- Ends all tokens of a user. -/
def revoke (_ : Authenticator) (clock : Clock) (username : String) (store : σ) :
    Except Failure Unit × σ :=
  match LivenessStore.remove clock (livenessKey username) store with
  | (.ok _, store) => (.ok (), store)
  | (.error failure, store) => (.error failure, store)

end Authenticator

end StompBroker
