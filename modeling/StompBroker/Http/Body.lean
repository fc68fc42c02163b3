import StompBroker.Http.Request
import StompBroker.Http.Response
import StompBroker.Json.Shape

/-!
# JSON bodies

A body is read as JSON only if the request says that it is: its media type has the subtype or the
suffix for JSON. `Request.document` then takes a document of a known shape from the body, and tells
apart a request of another type, a body that is too large, one that is not JSON, and one that is
JSON of another shape.
-/

set_option autoImplicit false

namespace StompBroker

namespace MediaType

/-- A character that names consist of. -/
def isTokenChar (c : Char) : Bool := c.isAlphanum || "!#$%&'*+-.^_\x60|~".toList.contains c

/-- A character of a value in quotation marks. -/
def isQuotedChar (c : Char) : Bool := 0x20 ≤ c.toNat && c.toNat ≠ 0x7F

/-- What follows the blanks and the semicolon behind a value in quotation marks. -/
def afterQuoted? : List Char → Option (List Char)
  | [] => some []
  | ';' :: rest => some rest
  | ' ' :: rest => afterQuoted? rest
  | _ => none

/-- What follows a value, up to the next parameter. -/
def afterValue? : List Char → Option (List Char)
  | '"' :: c :: rest =>
    let closing := rest.dropWhile (· != '"')
    if isQuotedChar c && (rest.takeWhile (· != '"')).all isQuotedChar && !closing.isEmpty then
      afterQuoted? closing.tail
    else none
  | chars =>
    match chars.dropWhile isTokenChar with
    | [] => some []
    | ';' :: rest => if (chars.takeWhile isTokenChar).isEmpty then none else some rest
    | _ => none

/-- A list of parameters is well formed. -/
def areParams (fuel : Nat) (params : List Char) : Bool :=
  match fuel with
  | 0 => false
  | fuel + 1 =>
    match params.dropWhile (· == ' ') with
    | [] => true
    | chars =>
      match chars.takeWhile isTokenChar, chars.dropWhile isTokenChar with
      | _ :: _, '=' :: rest => ((afterValue? rest).map (areParams fuel)).getD false
      | _, _ => false

/-- What follows the last plus sign of a subtype behind its first character. -/
def suffix? (subtype : List Char) : Option (List Char) :=
  if (subtype.drop 1).contains '+' then some (subtype.reverse.takeWhile (· != '+')).reverse
  else none

/-- The subtype without its suffix. -/
def stem (subtype : List Char) : List Char :=
  match suffix? subtype with
  | none => subtype
  | some ending => subtype.take (subtype.length - ending.length - 1)

/-- The media type is one of JSON. -/
def isJson (value : String) : Bool :=
  let chars := (Request.lower value).toList
  let subtype := (chars.dropWhile (· != '/')).drop 1
  let essence := subtype.takeWhile (· != ';')
  let params := (subtype.dropWhile (· != ';')).drop 1
  chars.takeWhile (· != '/') == "application".toList && essence.all isTokenChar &&
    (stem essence == "json".toList || suffix? essence == some "json".toList) &&
    areParams (params.length + 1) params

end MediaType

/-- Why a body cannot be used. -/
inductive BodyProblem where
  | otherType
  | tooLarge
  | malformed
  | mismatch
  deriving DecidableEq, Repr

/-- The answer to a request whose body cannot be used. -/
def BodyProblem.response : BodyProblem → Response
  | otherType => ⟨415, .text "The body must be JSON"⟩
  | tooLarge => ⟨413, .text "The body is too large"⟩
  | malformed => ⟨400, .text "The body is not well-formed JSON"⟩
  | mismatch => ⟨422, .text "The body does not have the fields of this request"⟩

/-- How many octets a body may have. -/
def Request.bodyLimit : Nat := 2 * 1024 * 1024

/-- The document of a shape that the body holds. -/
def Request.document (request : Request) (shape : Json.Shape) : Except BodyProblem Json :=
  if !((request.headerText? "content-type").elim false MediaType.isJson) then .error .otherType
  else if Request.bodyLimit < request.body.length then .error .tooLarge
  else
    match shape.read request.body with
    | .ok document => .ok document
    | .error (.malformed _) => .error .malformed
    | .error .mismatch => .error .mismatch

end StompBroker
