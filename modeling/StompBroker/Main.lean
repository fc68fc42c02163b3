import StompBroker.Broker.Transcript
import StompBroker.Launch.Startup
import StompBroker.Service.Sockets

/-!
# The program

The program starts the service as its command line asks, and serves one client, who speaks on the
standard input and listens on the standard output. The service stops when its client leaves. What is
logged goes to the standard error, and so does the reason why a service does not start.
-/

set_option autoImplicit false

namespace StompBroker.Program

/-- The environment, or nothing where it cannot be read. -/
def readVariables : IO (List (String × String)) := do
  try
    let octets ← IO.FS.readBinFile "/proc/self/environ"
    return (Text.split '\x00' (Utf8.decodeLossy octets.toList)).filterMap (Text.splitOnce? '=')
  catch _ => return []

/-- The file of settings, if there is one. -/
def readConfig (name : String) : IO (List (String × Bytes)) := do
  try
    return [(name, (← IO.FS.readBinFile name).toList)]
  catch _ => return []

/-- Shows the lines of the log behind those that were shown before. -/
def showLog (launch : Launch) (shown : Nat) : IO Unit :=
  ((launch.log.elim [] LogOutput.console).drop shown).forM fun line ↦
    IO.eprintln (line.string?.getD line.text)

/-- The session of the client. -/
def client : SessionId := ⟨"client"⟩

/-- Serves the client until it leaves or is closed. -/
partial def serve (stdin stdout : IO.FS.Stream) (sockets : Sockets)
    (service : Service LivenessCache) : IO (Service LivenessCache) := do
  let data ← stdin.read 65536
  let arrival := if data.isEmpty then .ended else .message data.toList
  let (_, sockets, service) := sockets.deliver client arrival
    { service with broker.journal := [] }
  let written := Transcript.octets service.broker.journal client
  stdout.write ⟨written.toArray⟩
  stdout.flush
  if (sockets.find? client).isSome then serve stdin stdout sockets service else return service

/-- Runs the service with the settings of the command line. -/
def run (environment : List (String × String)) (options : LaunchOptions) : IO UInt32 := do
  let config ← readConfig (options.config.getD Launch.usualConfig)
  let surroundings : Surroundings :=
    { environment, clock := ⟨← IO.monoMsNow⟩, salt := (← IO.getRandomBytes 16).toList }
  let storage : Storage := { files := .ofList config }
  let (result, launch) := (Launch.start surroundings options).run.run { storage }
  showLog launch 0
  match result with
  | .error problem =>
    IO.eprint problem.text
    return 1
  | .ok service =>
    let (sockets, service) := ({} : Sockets).accept client {} service
    let service ← serve (← IO.getStdin) (← IO.getStdout) sockets service
    let (_, stopped) := (Launch.stop service).run.run launch
    showLog stopped (launch.log.elim 0 fun log ↦ log.console.length)
    return 0

end StompBroker.Program

open StompBroker in
/-- Does what the command line asks for. -/
def main (arguments : List String) : IO UInt32 := do
  let environment ← Program.readVariables
  match Invocation.read environment arguments with
  | .error problem =>
    IO.eprintln ("error: " ++ problem.message)
    return 2
  | .ok .help =>
    (Invocation.helpLines environment).forM IO.println
    return 0
  | .ok .version =>
    IO.println Invocation.versionText
    return 0
  | .ok (.run options) => Program.run environment options
