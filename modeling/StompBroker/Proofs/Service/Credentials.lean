import StompBroker.Proofs.Service.Admission
import StompBroker.Proofs.Token.Timeline

/-!
# Users with a token

A token that was issued to a user opens every path to that user which the rules do not close, as
long as the token lasts and the user has not logged out (`Gate.admits_of_issued`). Tokens consist of
visible characters, so they get through a header as they are (`Request.shows_of_visible`).
-/

set_option autoImplicit false

namespace StompBroker

/-- A character of ASCII that is no blank. -/
def Visible (c : Char) : Prop := 0x21 ≤ c.toNat ∧ c.toNat < 0x7F

instance : DecidablePred Visible :=
  fun c ↦ inferInstanceAs (Decidable (0x21 ≤ c.toNat ∧ c.toNat < 0x7F))

namespace Text

theorem isBlank_of_visible {c : Char} (h : Visible c) : isBlank c = false := by
  obtain ⟨hleast, hmost⟩ := h
  simp only [isBlank, Bool.or_eq_false_iff, Bool.and_eq_false_iff, decide_eq_false_iff_not,
    beq_eq_false_iff_ne, ne_eq]
  omega

theorem trim_of_visible {text : String} (h : ∀ c ∈ text.toList, Visible c) : trim text = text := by
  have hkept (chars : List Char) (hchars : ∀ c ∈ chars, Visible c) :
      chars.dropWhile isBlank = chars := by
    cases chars with
    | nil => rfl
    | cons c rest =>
      exact List.dropWhile_cons_of_neg (Bool.eq_false_iff.mp
        (isBlank_of_visible (hchars c List.mem_cons_self)))
  have hreverse : ∀ c ∈ text.toList.reverse, Visible c :=
    fun c hmem ↦ h c (List.mem_reverse.mp hmem)
  rw [trim, trimChars, hkept _ h, hkept _ hreverse, List.reverse_reverse, String.ofList_toList]

end Text

namespace Request

theorem isPrintable_of_visible {c : Char} (h : Visible c) :
    isPrintable (UInt8.ofNat c.toNat) = true := by
  obtain ⟨hleast, hmost⟩ := h
  have hoctet : (UInt8.ofNat c.toNat).toNat = c.toNat := by
    rw [UInt8.toNat_ofNat']
    exact Nat.mod_eq_of_lt (Nat.lt_trans hmost (by decide))
  simp only [isPrintable, decide_eq_true_eq, UInt8.le_iff_toNat_le, UInt8.lt_iff_toNat_lt, hoctet]
  exact .inr ⟨Nat.le_trans (by decide) hleast, hmost⟩

theorem all_isPrintable_encode {text : String} (h : ∀ c ∈ text.toList, Visible c) :
    (Utf8.encode text).all isPrintable = true := by
  rw [Utf8.encode_eq_flatMap, List.all_flatMap, List.all_eq_true]
  intro c hmem
  have hascii : c.toNat < 128 := Nat.lt_trans (h c hmem).2 (by decide)
  rw [Utf8.utf8EncodeChar_of_ascii hascii]
  simp only [List.all_cons, List.all_nil, Bool.and_true, isPrintable_of_visible (h c hmem)]

/-- A header shows the token that follows the word for it. -/
theorem shows_of_visible {request : Request} {token : String}
    (hheader : request.header? "authorization" = some (Utf8.encode ("Bearer " ++ token)))
    (hvisible : ∀ c ∈ token.toList, Visible c) (hne : token ≠ "") : request.Shows token := by
  refine ⟨token, ?_, Text.trim_of_visible hvisible, hne⟩
  have hword : (Utf8.encode "Bearer ").all isPrintable = true := by decide
  rw [headerText?, hheader, Option.bind_some, if_pos, Utf8.decode?_encode]
  rw [Utf8.encode_append, List.all_append, hword, all_isPrintable_encode hvisible]
  rfl

end Request

theorem WebToken.visible_of_mem_sign {key : Bytes} {document : Json} {c : Char}
    (h : c ∈ (sign key document).toList) : Visible c := by
  have hdigits : (Base64.urlSafe.chars.all fun c ↦ decide (Visible c)) = true := by decide
  rcases mem_sign h with hdigit | rfl
  · exact of_decide_eq_true (List.all_eq_true.mp hdigits c hdigit)
  · exact ⟨by decide, by decide⟩

namespace Gate

variable {σ : Type} [LivenessStore σ]

/-- A user who may, and who shows a token that lasts, is admitted while live. -/
theorem admits_of_issued {request : Request} {service : Service σ} {user : Principal}
    {start : Clock} (hneeds : service.settings.access.NeedsToken request.path)
    (huser : user.userId ≤ maxUnsigned64) (hstart : InWord start.millis)
    (hheader : request.header? "authorization" = some (Utf8.encode ("Bearer " ++
      WebToken.sign service.auth.key (service.auth.claimsFor start user).toJson)))
    (hbegun : start.seconds ≤ service.clock.seconds)
    (hlasting : service.clock.seconds ≤ service.auth.lastSecond start)
    (hlive : (LivenessStore.contains service.clock (livenessKey user.username)
      service.cache).1 = .ok true)
    (hpermits : service.settings.access.Permits request.method request.path user.username) :
    Admits request service (some user) := by
  have hne : WebToken.sign service.auth.key (service.auth.claimsFor start user).toJson ≠ "" :=
    String.isEmpty_eq_false_iff.mp (WebToken.isEmpty_sign _ _)
  have hshown := Request.shows_of_visible hheader (fun c ↦ WebToken.visible_of_mem_sign) hne
  have hparse : service.auth.parse service.clock
      (WebToken.sign service.auth.key (service.auth.claimsFor start user).toJson) =
        .ok (service.auth.claimsFor start user) := by
    rw [service.auth.parse_claimsFor huser hstart, if_neg (Int.not_lt.mpr hbegun),
      if_neg (Int.not_lt.mpr hlasting)]
  have hvalid : (service.auth.validate service.clock
      (WebToken.sign service.auth.key (service.auth.claimsFor start user).toJson)
      service.cache).1 = .ok (service.auth.claimsFor start user) :=
    service.auth.validate_of_parse hparse hlive
  exact .known hneeds hshown hvalid hpermits

end Gate

/-! ### A service with a user -/

namespace Desk

/-- Requests are not counted, and run in transactions. -/
def settings : Settings :=
  { rate := { enabled := false }, database := { transactions := some true } }

def alice : Principal := ⟨7, "alice"⟩

/-- A service at which alice has logged in, with these tables. Unless told otherwise, its storage
refuses no transaction. -/
def service (tables : Tables) (refusal? : TransactionId → Option String := fun _ ↦ none) :
    Service LivenessCache :=
  { Service.start settings ⟨1700000000000⟩ ⟨[(livenessKey "alice", 1700007201000)]⟩ with
    database := { tables, hasTransactions := true, refusal? } }

/-- A token that was issued to alice. -/
def token : String :=
  let auth := (service {}).auth
  WebToken.sign auth.key (auth.claimsFor ⟨1700000000000⟩ alice).toJson

/-- A request of alice with a body of JSON. -/
def request (method path body : String) : Request :=
  { method, path, body := Utf8.encode body
    headers := [("content-type", Utf8.encode "application/json"),
      ("authorization", Utf8.encode ("Bearer " ++ token))] }

theorem header?_request (method path body : String) :
    (request method path body).header? "authorization" =
      some (Utf8.encode ("Bearer " ++ token)) := by
  rw [Request.header?, request, List.find?_cons_of_neg (by decide),
    List.find?_cons_of_pos (by decide), Option.map_some]

section Layers

variable (tables : Tables) (refusal? : TransactionId → Option String)

theorem auth_service : (service tables refusal?).auth = (service {}).auth := rfl

theorem admits_request (method body : String) {path : String}
    (hneeds : settings.access.requiresToken path = true) :
    Gate.Admits (request method path body) (service tables refusal?) (some alice) := by
  have hissued : InWord (⟨1700000000000⟩ : Clock).millis := ⟨by decide, by decide⟩
  have hheader := header?_request method path body
  rw [token, ← auth_service tables refusal?] at hheader
  have hlasting : (1700000000 : Int) ≤ (service {}).auth.lastSecond ⟨1700000000000⟩ := by decide
  have hpermits : settings.access.Permits method path "alice" := by
    intro rule hmem
    cases hmem
  exact Gate.admits_of_issued (AccessSettings.requiresToken_iff.mp hneeds) (by decide) hissued
    hheader (Int.le_refl _) hlasting rfl hpermits

/-- The layers hand the requests of alice on. -/
theorem exists_handsOn_request (method body : String) {path : String}
    (hneeds : settings.access.requiresToken path = true) :
    ∃ ready, Gate.HandsOn (request method path body) (service tables refusal?) (some alice) ready ∧
      Gate.Untouched (service tables refusal?) ready := by
  have hlets : Gate.Lets (request method path body) (service tables refusal?) := rfl
  have hok := Gate.verdict_eq_ok_iff.mpr
    ⟨hlets, admits_request tables refusal? method body hneeds⟩
  obtain ⟨huntouched, -⟩ :=
    Gate.untouched_verdict (request method path body) (service tables refusal?)
  exact ⟨_, Gate.handsOn_of_verdict (Prod.ext hok rfl), huntouched⟩

end Layers

end Desk

end StompBroker
