import StompBroker.Logging.Output

/-!
# The banner of a service

A service introduces itself with its name in large letters, and says what it is for and where it
listens by default.
-/

set_option autoImplicit false

namespace StompBroker

/-- What a service says about itself. -/
structure ServiceInfo where
  name : String := "msgsrv"
  description : String := ""
  port : Nat := 6010
  deriving DecidableEq, Repr

namespace ServiceInfo

/-- The version of all services. -/
def version : String := "0.1.0"

/-- The name in large letters. -/
def letters : String :=
  "\n ██╗  ██╗███████╗██████╗  █████╗ ██╗     ██████╗" ++
    "\n ██║  ██║██╔════╝██╔══██╗██╔══██╗██║     ██╔══██╗" ++
    "\n ███████║█████╗  ██████╔╝███████║██║     ██║  ██║" ++
    "\n ██╔══██║██╔══╝  ██╔══██╗██╔══██║██║     ██║  ██║" ++
    "\n ██║  ██║███████╗██║  ██║██║  ██║███████╗██████╔╝" ++
    "\n ╚═╝  ╚═╝╚══════╝╚═╝  ╚═╝╚═╝  ╚═╝╚══════╝╚═════╝" ++ "\n"

/-- The texts of the banner. -/
def bannerTexts (info : ServiceInfo) : List String :=
  [letters, " " ++ info.name.toUpper ++ " v" ++ version, " " ++ info.description,
    " Default Port: " ++ toString info.port, ""]

/-- The records of the banner. -/
def banner (info : ServiceInfo) : List LogRecord :=
  info.bannerTexts.map fun message ↦ { target := "common::service_bootstrap", message }

end ServiceInfo

end StompBroker
