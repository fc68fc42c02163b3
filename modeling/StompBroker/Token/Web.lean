import StompBroker.Digest.Sha512
import StompBroker.Failure
import StompBroker.Json.Shape
import StompBroker.Json.Writer
import StompBroker.Number.Bounds
import StompBroker.Text.Base64
import StompBroker.Text.Split

/-!
# Signed tokens

A token is three texts in URL-safe Base64 with points between them: a header that names the
signature algorithm, the claims, and the signature over the first two. `sign` writes a token and
`verify` reads one back, given the same key.

The header must name HMAC over SHA-512. Another known algorithm makes a token invalid, an unknown
one malformed. A token for a certain audience is invalid, because this service is nobody's audience.
-/

set_option autoImplicit false

namespace StompBroker

/-- What a token says about its holder. -/
structure Claims where
  userId : Nat
  username : String
  issuedAt : Int
  notBefore : Int
  expiresAt : Int
  issuer : String
  deriving DecidableEq, Repr

namespace Claims

/-- The claims as a document, in the order in which a token carries them. -/
def toJson (claims : Claims) : Json :=
  .object
    [("userId", .ofNat claims.userId), ("username", .string claims.username),
      ("iat", .ofInt claims.issuedAt), ("nbf", .ofInt claims.notBefore),
      ("exp", .ofInt claims.expiresAt), ("iss", .string claims.issuer)]

/-- What the document in a token must hold. -/
def shape : Json.Shape :=
  let instant := Json.Shape.integer minInt64 maxInt64
  .record
    [("userId", .required, .natural maxUnsigned64), ("username", .required, .text),
      ("iat", .required, instant), ("nbf", .required, instant), ("exp", .required, instant),
      ("iss", .required, .text)]

/-- The claims of a document of that shape. -/
def ofJson? (document : Json) : Option Claims := do
  return {
    userId := ← (← document.member? "userId").nat?
    username := ← (← document.member? "username").string?
    issuedAt := ← (← document.member? "iat").int?
    notBefore := ← (← document.member? "nbf").int?
    expiresAt := ← (← document.member? "exp").int?
    issuer := ← (← document.member? "iss").string? }

end Claims

namespace WebToken

/-- The header of every token that the service signs. -/
def header : Json := .object [("typ", .string "JWT"), ("alg", .string "HS512")]

/-- What a header may hold. -/
def headerShape : Json.Shape :=
  let text (name : String) := (name, Json.Presence.optional, Json.Shape.optional .text)
  .record
    [text "typ", ("alg", .required, .text), text "cty", text "jku",
      ("jwk", .optional, .optional .any), text "kid", text "x5u",
      ("x5c", .optional, .optional (.list .text)), text "x5t", text "x5t#S256"]

/-- The signature algorithms that a header may name. -/
def algorithms : List String :=
  ["HS256", "HS384", "HS512", "ES256", "ES384", "RS256", "RS384", "RS512", "PS256", "PS384",
    "PS512", "EdDSA"]

/-- The part of a token that carries octets. -/
def writePart (octets : Bytes) : String := Base64.encode Base64.urlSafe octets

/-- The signature over the first two parts of a token. -/
def signature (key : Bytes) (signed : String) : String :=
  writePart (Hmac.digest key (Utf8.encode signed))

/-- The token of a document. -/
def sign (key : Bytes) (document : Json) : String :=
  let signed := writePart (Json.write header) ++ "." ++ writePart (Json.write document)
  signed ++ "." ++ signature key signed

/-- The texts before and after the last point. -/
def splitLast? (text : String) : Option (String × String) :=
  (Text.splitCharsOnce? '.' text.toList.reverse).map fun parts ↦
    (String.ofList parts.2.reverse, String.ofList parts.1.reverse)

/-- The document that a part of a token carries. -/
def readPart (shape : Json.Shape) (part : String) : Except TokenError Json :=
  match Base64.decode? Base64.urlSafe part with
  | none => .error .malformed
  | some octets => (shape.read octets).mapError fun _ ↦ .malformed

/-- A token names an audience: a text, or a list of texts. -/
def namesAudience : Json → Bool
  | .string _ => true
  | .array elements => elements.all fun element ↦ element.string?.isSome
  | _ => false

/-- The members besides the claims that a token is checked for. -/
def registered : Json.Shape :=
  .record
    [("sub", .optional, .optional .any), ("aud", .optional, .optional .any),
      ("exp", .optional, .any), ("nbf", .optional, .any), ("iss", .optional, .any)]

/-- The members of a key that are texts if they are there. -/
def keyTexts : List String := ["use", "alg", "kid", "x5u", "x5t", "x5t#S256"]

/-- A document describes a public key: its type decides which texts it must have. -/
def isKey (key : Json) : Bool :=
  let text? (name : String) := (key.member? name).bind Json.string?
  let optionalText (name : String) :=
    match key.member? name with
    | none | some .null | some (.string _) => true
    | _ => false
  let needs (names : List String) := names.all fun name ↦ (text? name).isSome
  let curve := (text? "crv").any ["P-256", "P-384", "P-521", "Ed25519"].contains
  keyTexts.all optionalText &&
    match text? "kty" with
    | some "EC" => curve && needs ["x", "y"]
    | some "RSA" => needs ["n", "e"]
    | some "oct" => needs ["k"]
    | some "OKP" => curve && needs ["x"]
    | _ => false

/-- The header carries no key, or a well-formed one. -/
def hasUsableKey (header : Json) : Bool :=
  match header.member? "jwk" with
  | none | some .null => true
  | some key => isKey key

/-- A subject that is a list or an object ends a token. -/
def isPlain : Option Json → Bool
  | some (.array _) | some (.object _) => false
  | _ => true

/-- The claims of a token with a signature under `key` and the given issuer. -/
def verify (key : Bytes) (issuer token : String) : Except TokenError Claims :=
  match splitLast? token with
  | none => .error .malformed
  | some (signed, given) =>
    match splitLast? signed with
    | none => .error .malformed
    | some (head, body) => do
      let header ← readPart headerShape head
      match (header.member? "alg").bind Json.string? with
      | none => throw .malformed
      | some algorithm =>
        if !algorithms.contains algorithm || !hasUsableKey header then throw .malformed
        if algorithm != "HS512" then throw .invalid
        if given != signature key signed then throw .invalid
        let document ← readPart Claims.shape body
        let others ← readPart registered body
        if !isPlain (others.member? "sub") then throw .malformed
        match Claims.ofJson? document with
        | none => throw .malformed
        | some claims =>
          if claims.issuer != issuer then throw .invalid
          if (others.member? "aud").any namesAudience then throw .invalid
          return claims

end WebToken

end StompBroker
