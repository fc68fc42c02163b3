import StompBroker.Http.SocketAddress
import StompBroker.Text.Decimal
import StompBroker.Text.Split
import StompBroker.Token.Authenticator

/-!
# Live tokens on a server

Several services may keep their live tokens on one server. `CacheServer` says how it is reached, and
`CacheServer.problem?` what keeps a service from reaching it: an address that cannot be used at all,
or nobody who answers at a good one. `RemoteCache` is the cache itself as long as it is used; a
server that does not answer fails every operation.
-/

set_option autoImplicit false

namespace StompBroker

/-- How the server of a cache is reached. -/
structure CacheServer where
  address : String
  maxConnections : Nat := 16
  /-- How many connections are opened at the start and kept open. -/
  idleConnections : Option Nat := some 2
  connectSeconds : Nat := 5
  idleSeconds : Option Nat := some 600
  deriving DecidableEq, Repr

/-- What is wrong with the address of a server. -/
inductive AddressProblem where
  | malformed
  | noHost
  | encrypted
  | noDatabase
  deriving DecidableEq, Repr

/-- The wording of the problem. -/
def AddressProblem.message : AddressProblem → String
  | malformed => "Redis URL did not parse- InvalidClientConfig"
  | noHost => "Missing hostname- InvalidClientConfig"
  | encrypted => "can't connect with TLS, the feature is not enabled- InvalidClientConfig"
  | noDatabase => "Invalid database number- InvalidClientConfig"

/-- Where a server is. -/
inductive CachePlace where
  | host (name : String)
  /-- On the same machine, known by the path of a file. -/
  | socket
  deriving DecidableEq, Repr

/-- What there is to hear from a place without a server: the host refuses, has no known address, or
there is no such file. -/
def CachePlace.silence : CachePlace → String
  | socket => "No such file or directory (os error 2)"
  | host name =>
    let bare := match Text.splitOnce? ':' name with
      | some (bare, _) => bare
      | none => name
    if Text.startsWith "[" name || bare == "localhost" || (Address.octets? bare).isSome then
      "Connection refused (os error 111)"
    else "failed to lookup address information: Temporary failure in name resolution"

namespace CacheServer

/-- A character that no name of a host contains. -/
def isForbidden (c : Char) : Bool := c.toNat ≤ 0x20 || "#/<>?@[\\]^|".toList.contains c

/-- The number of a port, or nothing for the usual one. -/
def isPort (port : String) : Bool := port.isEmpty || (SocketAddress.port? port).isSome

/-- The name of a host or its address in brackets, with a port or without one. -/
def isHost (text : String) : Bool :=
  match Text.stripStart? "[" text with
  | some rest =>
    match Text.splitOnce? ']' rest with
    | none => false
    | some (inner, behind) =>
      (Address.words? inner).isSome &&
        (behind.isEmpty || ((Text.stripStart? ":" behind).map isPort).getD false)
  | none =>
    match Text.splitOnce? ':' text with
    | none => !text.toList.any isForbidden
    | some (host, port) => !host.isEmpty && !host.toList.any isForbidden && isPort port

/-- What follows the last sign in front of the name of a host. -/
def afterCredentials (authority : String) : String :=
  ((Text.split '@' authority).getLast?).getD authority

/-- The host in what follows the two slashes of an address. -/
def hostOf (rest : String) : Except AddressProblem CachePlace :=
  let chars := rest.toList
  let authority := String.ofList (chars.takeWhile fun c ↦ c != '/' && c != '?' && c != '#')
  let behind := chars.dropWhile fun c ↦ c != '/' && c != '?' && c != '#'
  let path := behind.takeWhile fun c ↦ c != '?' && c != '#'
  let number := ((path.dropWhile (· == '/')).reverse.dropWhile (· == '/')).reverse
  let host := afterCredentials authority
  if !isHost host then .error .malformed
  else if host.isEmpty then .error .noHost
  else if number.isEmpty then .ok (.host host)
  else
    match Text.integer? maxSigned64 (String.ofList number) with
    | .ok _ => .ok (.host host)
    | .error _ => .error .noDatabase

/-- Where the server of an address is. -/
def placeOf (address : String) : Except AddressProblem CachePlace :=
  match Text.splitOnce? ':' address with
  | none => .error .malformed
  | some (scheme, rest) =>
    let scheme := String.ofList (scheme.toList.map Char.toLower)
    let behind := Text.stripStart? "//" rest
    if scheme == "redis" then behind.elim (.error .noHost) hostOf
    else if scheme == "rediss" then
      behind.elim (.error .noHost) fun rest ↦ (hostOf rest).bind fun _ ↦ .error .encrypted
    else if scheme == "unix" || scheme == "redis+unix" then .ok .socket
    else .error .malformed

/-- Why a server cannot be used, from the outside in. -/
def problem? (server : CacheServer) (answers : Bool) : Option (List String) :=
  match placeOf server.address with
  | .error problem => some ["Failed to create Redis connection manager", problem.message]
  | .ok place =>
    if answers then none
    else if 0 < server.idleConnections.getD 0 then
      some ["Failed to build Redis connection pool", place.silence]
    else some ["Failed to get connection from pool", "Timed out"]

/-- What a service that cannot use a server says first. -/
def message? (server : CacheServer) (answers : Bool) : Option String :=
  (server.problem? answers).bind List.head?

end CacheServer

/-- A cache on a server. -/
structure RemoteCache where
  held : LivenessCache := {}
  /-- Why the server does not answer, if it does not. -/
  silence : Option String := none
  deriving DecidableEq, Repr

namespace RemoteCache

/-- The failure of an operation. -/
def unavailable (operation key reason : String) : Failure :=
  .serviceUnavailable
    ("token cache: Failed to " ++ operation ++ " key: " ++ key ++ ": " ++ reason)

/-- Asks the server. -/
def ask {α : Type} (operation key : String) (cache : RemoteCache)
    (operate : LivenessCache → α × LivenessCache) : Except Failure α × RemoteCache :=
  match cache.silence with
  | some reason => (.error (unavailable operation key reason), cache)
  | none =>
    let (answer, held) := operate cache.held
    (.ok answer, { cache with held := held })

end RemoteCache

instance : LivenessStore RemoteCache where
  set clock key seconds cache := cache.ask "SETEX" key fun held ↦ ((), held.set clock key seconds)
  contains clock key cache := cache.ask "check EXISTS for" key fun held ↦ held.contains clock key
  remove _ key cache := cache.ask "DEL" key fun held ↦ held.remove key

end StompBroker
