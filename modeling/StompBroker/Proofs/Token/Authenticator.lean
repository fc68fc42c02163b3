import StompBroker.Proofs.Token.Web
import StompBroker.Token.Authenticator

/-!
# Tokens of the authenticator

A token that the authenticator signed is judged by its claims and the clock alone: inside of its
time window it gives back the claims that are read from it (`parse_sign`). It is valid if its user
is live as well (`validate_of_parse`).
-/

set_option autoImplicit false

namespace StompBroker.Authenticator

theorem parse_sign {auth : Authenticator} {clock : Clock} {claims : Claims}
    (hread : WebToken.readClaims auth.issuer (WebToken.writePart (Json.write claims.toJson)) =
      .ok claims)
    (hbefore : claims.notBefore ≤ clock.seconds) (hafter : clock.seconds ≤ claims.expiresAt) :
    auth.parse clock (WebToken.sign auth.key claims.toJson) = .ok claims := by
  have hbegun : ¬clock.seconds < claims.notBefore := Int.not_lt.mpr hbefore
  have hlasting : ¬claims.expiresAt < clock.seconds := Int.not_lt.mpr hafter
  unfold parse
  rw [WebToken.verify_sign, hread]
  simp only [bind, Except.bind, if_neg hbegun, if_neg hlasting]
  rfl

theorem validate_of_parse {σ : Type} [LivenessStore σ] (auth : Authenticator) {clock : Clock}
    {token : String} {claims : Claims} {store : σ} (hparse : auth.parse clock token = .ok claims)
    (hlive : (LivenessStore.contains clock (livenessKey claims.username) store).1 = .ok true) :
    (auth.validate clock token store).1 = .ok claims := by
  rcases hcontains : LivenessStore.contains clock (livenessKey claims.username) store with
    ⟨found, after⟩
  obtain rfl : found = .ok true := (congrArg Prod.fst hcontains).symm.trans hlive
  simp only [validate, hparse, hcontains]

end StompBroker.Authenticator
