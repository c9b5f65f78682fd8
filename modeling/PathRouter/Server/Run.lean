import PathRouter.Server.Basic

/-!
Running a server on a network, which decides where a server can listen and which requests get
through to it.
-/

namespace PathRouter

structure Network where
  /-- A server can listen here. -/
  binds : Net.SocketAddress → Bool
  /-- Requests to this address get through. -/
  reaches : Net.SocketAddress → Bool

namespace Network

/-- Addresses that can be listened on where no interface has an address: any of four octets, and of
the longer ones those that stand for such an address or name no interface. -/
def bindsUnaddressed : Net.SocketAddress → Bool
  | .v4 .. => true
  | .v6 ip .. => ip.embedded?.isSome || ip.isUnspecified

/-- A network of which no interface has an address, so that no request gets through. -/
def isolated : Network := ⟨bindsUnaddressed, fun _ => false⟩

end Network

namespace Server

/-- What becomes of settings on a network: the totals, and either an error or the address that the
server listens on. The totals of a server that fails to listen show that it had its table. -/
structure Start where
  metrics : Metrics
  result : Except StartupError (Net.SocketAddress × Server)

/-- The table comes first, then the address, then the network. -/
def start (network : Network) (settings : Settings) : Start :=
  match prepareAfter {} settings with
  | (.error e, totals) => ⟨totals, .error e⟩
  | (.ok s, totals) =>
      match settings.listenAddress with
      | .error e => ⟨totals, .error e⟩
      | .ok address =>
          if network.binds address then ⟨totals, .ok (address, s)⟩
          else ⟨totals, .error (.bindFailed address)⟩

/-- Sends requests one after the other; the ones that do not get through have no answer. -/
def exchange (network : Network) (address : Net.SocketAddress) (s : Server) :
    List (String × String) → List (Option Http.Response) × Server
  | [] => ([], s)
  | (method, target) :: rest =>
      if network.reaches address then
        let (response, s) := s.answer method target
        let (responses, s) := exchange network address s rest
        (some response :: responses, s)
      else
        let (responses, s) := exchange network address s rest
        (none :: responses, s)

end Server

end PathRouter
