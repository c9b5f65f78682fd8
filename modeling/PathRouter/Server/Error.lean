import PathRouter.Router.Error
import PathRouter.Settings.Basic

/-!
Why a server does not start.
-/

namespace PathRouter

inductive StartupError where
  | invalidMethod (route method : String)
  | invalidStatus (route : String) (status : UInt16)
  | invalidTable (error : BuildError)
  | invalidAddress (hostPort : String)
  | bindFailed (address : Net.SocketAddress)
  deriving DecidableEq, Repr

namespace StartupError

def message : StartupError → String
  | .invalidMethod route method => "Route " ++ route ++ ": invalid method " ++ Text.quote method
  | .invalidStatus route status =>
      "Route " ++ route ++ ": invalid status " ++ toString status.toNat
  | .invalidTable _ => "Invalid route table"
  | .invalidAddress hostPort => "Invalid host:port " ++ hostPort
  | .bindFailed address => "Failed to bind " ++ address.render

/-- What lies behind the error, the nearest cause first. -/
def causes : StartupError → List String
  | .invalidMethod .. => ["invalid HTTP method"]
  | .invalidStatus .. => ["invalid status code"]
  | .invalidTable error@(.single (.parse _ source)) => [error.message, source.message]
  | .invalidTable error => [error.message]
  | .invalidAddress _ => ["invalid socket address syntax"]
  | .bindFailed _ => []

/-- The error with all that lies behind it. -/
def chain (e : StartupError) : String := ": ".intercalate (e.message :: e.causes)

end StartupError

/-- The address to listen on. -/
def Settings.listenAddress (s : Settings) : Except StartupError Net.SocketAddress :=
  match s.address? with
  | some address => .ok address
  | none => .error (.invalidAddress s.hostPort)

end PathRouter
