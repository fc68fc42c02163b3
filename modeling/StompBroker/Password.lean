import StompBroker.Digest.Argon2
import StompBroker.Failure
import StompBroker.Number.Bounds
import StompBroker.Text.Base64
import StompBroker.Text.Split

/-!
# Passwords

Of a password only a hash is kept, as a text of fields that start with dollar signs: the algorithm,
its version, its parameters, the salt and the hash. `PasswordHash.parse?` reads such a text and
`PasswordHash.accepts` checks a password against it. A text without those fields is a failure, and a
hash that cannot be computed accepts no password.
-/

set_option autoImplicit false

namespace StompBroker

/-- The hash of a password and how it was made. -/
structure PasswordHash where
  algorithm : String
  version : Option Nat := none
  params : List (String × String) := []
  salt : Option String := none
  hash : Option Bytes := none
  deriving Repr

namespace PasswordHash

/-- The name of an algorithm or of a parameter. -/
def isName (text : String) : Bool :=
  !text.isEmpty && text.length ≤ 32 &&
    text.toList.all fun c ↦ ('a' ≤ c && c ≤ 'z') || ('0' ≤ c && c ≤ '9') || c == '-'

/-- The value of a parameter. -/
def isValue (text : String) : Bool :=
  text.length ≤ 64 &&
    text.toList.all fun c ↦ c.isAlphanum || c == '/' || c == '+' || c == '.' || c == '-'

/-- A number of 32 bits without zeros in front. -/
def decimal? (text : String) : Option Nat :=
  if !text.toList.all Char.isDigit ∨ (1 < text.length ∧ Text.startsWith "0" text) then none
  else (Text.natural? maxUnsigned32 text).toOption

/-- A parameter with its value. -/
def param? (text : String) : Option (String × String) :=
  match Text.split '=' text with
  | [name, value] => if isName name ∧ isValue value then some (name, value) else none
  | _ => none

/-- The field with the version. -/
def isVersionField (field : String) : Bool :=
  Text.startsWith "v=" field && !field.contains ','

/-- The fields behind the version: parameters, salt and hash. -/
def readFields (hash : PasswordHash) (fields : List String) : Option PasswordHash := do
  let (hash, fields) ←
    match fields with
    | field :: rest =>
      if field.contains '=' then
        if 127 < field.utf8ByteSize then none
        else
          let params ← (Text.split ',' field).mapM param?
          pure ({ hash with params }, rest)
      else pure (hash, field :: rest)
    | [] => pure (hash, [])
  let isSalt (salt : String) : Bool := isValue salt && 4 ≤ salt.length
  let decode (text : String) : Option Bytes :=
    (Base64.decode? Base64.standard text).filter fun octets ↦
      10 ≤ octets.length && octets.length ≤ 64
  match fields with
  | [] => return hash
  | [salt] => if isSalt salt then return { hash with salt := some salt } else none
  | [salt, text] =>
    if isSalt salt then return { hash with salt := some salt, hash := some (← decode text) }
    else none
  | _ => none

/-- The hash that a text stands for. -/
def parse? (text : String) : Option PasswordHash :=
  match Text.split '$' text with
  | "" :: algorithm :: fields =>
    if !isName algorithm then none
    else
      match fields with
      | field :: rest =>
        if isVersionField field then do
          let version ← (Text.stripStart? "v=" field).filter isValue
          readFields { algorithm, version := some (← decimal? version) } rest
        else readFields { algorithm } fields
      | [] => some { algorithm }
  | _ => none

/-- The variant that an algorithm's name stands for. -/
def variant? : String → Option Argon2.Variant
  | "argon2d" => some .dependent
  | "argon2i" => some .independent
  | "argon2id" => some .hybrid
  | _ => none

/-- Sets one parameter. -/
def setParam (params : Argon2.Params) (param : String × String) : Option Argon2.Params :=
  match param.1 with
  | "m" => (decimal? param.2).map fun memory ↦ { params with memory }
  | "t" => (decimal? param.2).map fun passes ↦ { params with passes }
  | "p" => (decimal? param.2).map fun lanes ↦ { params with lanes }
  | "keyid" =>
    ((Base64.decode? Base64.standard param.2).filter (·.length ≤ 8)).map fun _ ↦ params
  | "data" =>
    ((Base64.decode? Base64.standard param.2).filter (·.length ≤ 32)).map fun data ↦
      { params with data }
  | _ => none

/-- The hash function can work with these parameters. -/
def isUsable (params : Argon2.Params) : Bool :=
  8 ≤ params.memory && 1 ≤ params.passes && 1 ≤ params.lanes && params.lanes ≤ 16777215 &&
    8 * params.lanes ≤ params.memory

/-- The parameters of the hash function. -/
def argonParams? (hash : PasswordHash) (size : Nat) : Option Argon2.Params := do
  let variant ← variant? hash.algorithm
  let isOld ← match hash.version with
    | none | some 0x13 => some false
    | some 0x10 => some true
    | some _ => none
  let params ← hash.params.foldlM setParam { variant, isOld, tagLength := size }
  if isUsable params then return params else none

/-- The password is the hashed one. -/
def accepts (hash : PasswordHash) (password : String) : Bool :=
  match hash.salt, hash.hash with
  | some salt, some expected =>
    match hash.argonParams? expected.length, Base64.decode? Base64.standard salt with
    | some params, some salt =>
      8 ≤ salt.length && Argon2.hash params (Utf8.encode password) salt == expected
    | _, _ => false
  | _, _ => false

/-- The hash of a password with a salt, as a text. -/
def create (password : String) (salt : Bytes) : String :=
  let params : Argon2.Params := {}
  "$argon2id$v=19$m=" ++ toString params.memory ++ ",t=" ++ toString params.passes ++ ",p=" ++
    toString params.lanes ++ "$" ++ Base64.encode Base64.standard salt ++ "$" ++
    Base64.encode Base64.standard (Argon2.hash params (Utf8.encode password) salt)

end PasswordHash

/-- The password is the one whose hash is given as a text. -/
def verifyPassword (hash password : String) : Except Failure Bool :=
  match PasswordHash.parse? hash with
  | none => .error (.internal "Failed to parse password hash")
  | some hash => .ok (hash.accepts password)

end StompBroker
