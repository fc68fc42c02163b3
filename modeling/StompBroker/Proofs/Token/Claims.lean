import StompBroker.Clock
import StompBroker.Proofs.Json.Record
import StompBroker.Proofs.Text.Base64
import StompBroker.Proofs.Token.Web

/-!
# Claims that are signed and read back

Claims whose numbers fit in their words (`Claims.Sized`) are a flat document, and both readers of
the middle part of a token take it: one finds all claims in it (`readPart_shape`), the other the
registered members among them (`readPart_registered`). A token for the issuer's own claims is
therefore read as exactly these claims (`readClaims_toJson`, `verify_sign_toJson`).
-/

set_option autoImplicit false

namespace StompBroker

namespace Json

theorem scalar_ofNat {value : Nat} (h : value ≤ maxUnsigned64) : Scalar (.ofNat value) :=
  have hfits : Fits true value := h
  .number hfits

theorem scalar_ofInt {value : Int} (h : InWord value) : Scalar (.ofInt value) := by
  obtain ⟨hleast, hgreatest⟩ := h
  unfold minInt64 at hleast
  unfold maxInt64 at hgreatest
  cases value with
  | ofNat magnitude =>
    rw [Int.ofNat_eq_natCast] at hgreatest
    exact scalar_ofNat (by unfold maxUnsigned64; omega)
  | negSucc magnitude =>
    have hfits : Fits false (magnitude + 1) :=
      ⟨Nat.succ_pos magnitude, by unfold maxSigned64; omega⟩
    exact .number hfits

theorem int?_ofInt (value : Int) : (ofInt value).int? = some value := by
  cases value with
  | ofNat magnitude => rfl
  | negSucc magnitude => rfl

theorem exists_ofInt_eq_number {value : Int} (h : InWord value) :
    ∃ number, ofInt value = .number number ∧ isInteger minInt64 maxInt64 number = true := by
  cases value with
  | ofNat magnitude => exact ⟨.natural magnitude, rfl, decide_eq_true h.2⟩
  | negSucc magnitude =>
    refine ⟨.negative (magnitude + 1), rfl, ?_⟩
    rw [isInteger, decide_eq_true_iff]
    exact h.1

theorem admits_ofInt {value : Int} (h : InWord value) :
    (Shape.integer minInt64 maxInt64).Admits (ofInt value) := by
  obtain ⟨number, hnumber, hinteger⟩ := exists_ofInt_eq_number h
  rw [hnumber]
  exact .integer hinteger

end Json

namespace Claims

/-- Claims whose numbers fit in their words. -/
structure Sized (claims : Claims) : Prop where
  userId : claims.userId ≤ maxUnsigned64
  issuedAt : InWord claims.issuedAt
  notBefore : InWord claims.notBefore
  expiresAt : InWord claims.expiresAt

/-- The members of the document in a token. -/
def members (claims : Claims) : List (String × Json) :=
  [("userId", .ofNat claims.userId), ("username", .string claims.username),
    ("iat", .ofInt claims.issuedAt), ("nbf", .ofInt claims.notBefore),
    ("exp", .ofInt claims.expiresAt), ("iss", .string claims.issuer)]

theorem scalar_of_mem_members {claims : Claims} (h : claims.Sized) {member : String × Json}
    (hmem : member ∈ claims.members) : Json.Scalar member.2 := by
  simp only [members, List.mem_cons, List.not_mem_nil, or_false] at hmem
  rcases hmem with rfl | rfl | rfl | rfl | rfl | rfl
  · exact Json.scalar_ofNat h.userId
  · exact .text _
  · exact Json.scalar_ofInt h.issuedAt
  · exact Json.scalar_ofInt h.notBefore
  · exact Json.scalar_ofInt h.expiresAt
  · exact .text _

theorem nodup_members (claims : Claims) : (claims.members.map (·.1)).Nodup := by
  have hnames : claims.members.map (·.1) = ["userId", "username", "iat", "nbf", "exp", "iss"] := rfl
  rw [hnames]
  decide

theorem ofJson?_toJson (claims : Claims) : ofJson? claims.toJson = some claims := by
  have huser : claims.toJson.member? "userId" = some (.ofNat claims.userId) := rfl
  have hname : claims.toJson.member? "username" = some (.string claims.username) := rfl
  have hissued : claims.toJson.member? "iat" = some (.ofInt claims.issuedAt) := rfl
  have hbefore : claims.toJson.member? "nbf" = some (.ofInt claims.notBefore) := rfl
  have hexpires : claims.toJson.member? "exp" = some (.ofInt claims.expiresAt) := rfl
  have hissuer : claims.toJson.member? "iss" = some (.string claims.issuer) := rfl
  rw [ofJson?, huser, hname, hissued, hbefore, hexpires, hissuer]
  simp only [Option.bind_eq_bind, Option.bind_some, Json.int?_ofInt]
  rfl

end Claims

namespace WebToken

theorem readPart_write {fields : Json.Fields} {members : List (String × Json)}
    (hflat : Json.Flat fields members)
    (hcomplete : Json.isComplete fields (members.filter (Json.isField fields)).reverse = true) :
    readPart (.record fields) (writePart (Json.write (.object members))) =
      .ok (.object (members.filter (Json.isField fields))) := by
  rw [readPart, writePart, Base64.decode?_encode Base64.urlSafe_reads]
  simp only
  rw [Json.Shape.read_record hflat hcomplete]
  rfl

/-- The claims come back from the document of a token. -/
theorem readPart_shape {claims : Claims} (h : claims.Sized) :
    readPart Claims.shape (writePart (Json.write claims.toJson)) = .ok claims.toJson := by
  have hflat : Json.Flat
      [("userId", .required, .natural maxUnsigned64), ("username", .required, .text),
        ("iat", .required, .integer minInt64 maxInt64),
        ("nbf", .required, .integer minInt64 maxInt64),
        ("exp", .required, .integer minInt64 maxInt64), ("iss", .required, .text)]
      claims.members := by
    refine ⟨fun _ hmem ↦ Claims.scalar_of_mem_members h hmem, fun member hmem field hfield ↦ ?_,
      claims.nodup_members⟩
    simp only [Claims.members, List.mem_cons, List.not_mem_nil, or_false] at hmem
    rcases hmem with rfl | rfl | rfl | rfl | rfl | rfl
    · cases hfield
      exact .natural (decide_eq_true h.userId)
    · cases hfield
      exact .text _
    · cases hfield
      exact Json.admits_ofInt h.issuedAt
    · cases hfield
      exact Json.admits_ofInt h.notBefore
    · cases hfield
      exact Json.admits_ofInt h.expiresAt
    · cases hfield
      exact .text _
  exact readPart_write hflat rfl

/-- The registered members of the document of a token. -/
theorem readPart_registered {claims : Claims} (h : claims.Sized) :
    readPart registered (writePart (Json.write claims.toJson)) =
      .ok (.object [("nbf", .ofInt claims.notBefore), ("exp", .ofInt claims.expiresAt),
        ("iss", .string claims.issuer)]) := by
  have hflat : Json.Flat
      [("sub", .optional, .optional .any), ("aud", .optional, .optional .any),
        ("exp", .optional, .any), ("nbf", .optional, .any), ("iss", .optional, .any)]
      claims.members := by
    refine ⟨fun _ hmem ↦ Claims.scalar_of_mem_members h hmem, fun member hmem field hfield ↦ ?_,
      claims.nodup_members⟩
    simp only [Claims.members, List.mem_cons, List.not_mem_nil, or_false] at hmem
    rcases hmem with rfl | rfl | rfl | rfl | rfl | rfl <;> cases hfield <;> exact .any _
  exact readPart_write hflat rfl

/-- Claims for an issuer are read as they were written. -/
theorem readClaims_toJson {claims : Claims} (h : claims.Sized) :
    readClaims claims.issuer (writePart (Json.write claims.toJson)) = .ok claims := by
  rw [readClaims, readPart_shape h, readPart_registered h]
  simp only [bind, Except.bind, Claims.ofJson?_toJson, bne_self_eq_false]
  rfl

/-- A token under one's own key gives back the claims that were signed. -/
theorem verify_sign_toJson (key : Bytes) {claims : Claims} (h : claims.Sized) :
    verify key claims.issuer (sign key claims.toJson) = .ok claims := by
  rw [verify_sign, readClaims_toJson h]

end WebToken

end StompBroker
