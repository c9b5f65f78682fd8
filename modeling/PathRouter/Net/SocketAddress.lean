import PathRouter.Net.IP

/-!
A numerical address with a port. Addresses of the longer kind stand in brackets and may name a
scope by its number. Names of hosts are not addresses.
-/

namespace PathRouter.Net

inductive SocketAddress where
  | v4 (ip : IPv4) (port : UInt16)
  | v6 (ip : IPv6) (scope : Nat) (port : UInt16)
  deriving DecidableEq, Repr

namespace SocketAddress

def port : SocketAddress → UInt16
  | .v4 _ port | .v6 _ _ port => port

def isIPv6 : SocketAddress → Bool
  | .v4 .. => false
  | .v6 .. => true

/-- Reads a port, which ends the text. -/
def readPort (cs : List Char) : Option UInt16 := do
  let (port, rest) ← NumberForm.port.read (← Text.expect ':' cs)
  if rest = [] then some (UInt16.ofNat port) else none

/-- A scope that is not given is the scope 0. -/
def readScope (cs : List Char) : Nat × List Char :=
  ((Text.expect '%' cs).bind NumberForm.scope.read).getD (0, cs)

def readIPv4 (cs : List Char) : Option SocketAddress := do
  let (ip, cs) ← IPv4.read cs
  return .v4 ip (← readPort cs)

def readIPv6 (cs : List Char) : Option SocketAddress := do
  let (ip, cs) ← IPv6.read (← Text.expect '[' cs)
  let (scope, cs) := readScope cs
  return .v6 ip scope (← readPort (← Text.expect ']' cs))

def parse? (text : String) : Option SocketAddress :=
  (readIPv4 text.toList).or (readIPv6 text.toList)

/-- The address without scope and port. -/
def renderIP : SocketAddress → String
  | .v4 ip _ => ip.render
  | .v6 ip _ _ => ip.render

def render : SocketAddress → String
  | .v4 ip port => ip.render ++ ":" ++ toString port.toNat
  | .v6 ip scope port =>
      let host := if scope = 0 then ip.render else ip.render ++ "%" ++ toString scope
      "[" ++ host ++ "]:" ++ toString port.toNat

end SocketAddress

end PathRouter.Net
