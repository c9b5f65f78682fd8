import PathRouter.Json
import PathRouter.Net.SocketAddress

/-!
What a server is told before it starts: where it listens, whether its totals are published, and
its routes.
-/

namespace PathRouter

/-- A route as it is configured. -/
structure RouteEntry where
  name : String
  pattern : String
  /-- The methods that are allowed; with none listed all of them are. -/
  methods : List String := []
  status : UInt16 := 200
  body : Option Json := none

structure MetricsSettings where
  enabled : Bool := true
  port : UInt16 := 9090
  deriving DecidableEq, Repr

structure Settings where
  host : String := "127.0.0.1"
  port : UInt16 := 8080
  metrics : MetricsSettings := {}
  routes : List RouteEntry := []

namespace Settings

/-- The host and the port as they are written. -/
def hostPort (s : Settings) : String := s.host ++ ":" ++ toString s.port.toNat

/-- The address to listen on, if the host is one. -/
def address? (s : Settings) : Option Net.SocketAddress := Net.SocketAddress.parse? s.hostPort

end Settings

namespace RouteEntry

def toJson (r : RouteEntry) : Json := .obj [
  ("name", .str r.name),
  ("pattern", .str r.pattern),
  ("methods", .arr (r.methods.map .str)),
  ("status", .int r.status.toNat),
  ("body", r.body.getD .null)]

end RouteEntry

namespace Settings

/-- The settings with all their defaults filled in. -/
def toJson (s : Settings) : Json := .obj [
  ("host", .str s.host),
  ("port", .int s.port.toNat),
  ("metrics", .obj [("enabled", .bool s.metrics.enabled), ("port", .int s.metrics.port.toNat)]),
  ("routes", .arr (s.routes.map RouteEntry.toJson))]

end Settings

end PathRouter
