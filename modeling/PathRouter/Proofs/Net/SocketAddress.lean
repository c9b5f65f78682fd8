import Mathlib
import PathRouter.Proofs.Net.Reader
import PathRouter.Proofs.Text.Numeral
import PathRouter.Server.Error

/-!
The address that a host and a port make. They are written one after the other with a colon between
them, and an address may hold colons itself; still what is read as the port is never more and never
less than the port that was written. A reader of an address without brackets stops before the first
colon, and in brackets the closing one tells where the address ends, so a host is read as it would
be on its own.
-/

namespace PathRouter.Net

/-! ### A host and a port -/

/-- An address without its port. -/
inductive Host where
  | v4 (ip : IPv4)
  | v6 (ip : IPv6) (scope : Nat)
  deriving DecidableEq, Repr

def Host.withPort (port : UInt16) : Host → SocketAddress
  | .v4 ip => .v4 ip port
  | .v6 ip scope => .v6 ip scope port

def SocketAddress.host : SocketAddress → Host
  | .v4 ip _ => .v4 ip
  | .v6 ip scope _ => .v6 ip scope

namespace Host

@[simp] theorem port_withPort (host : Host) (port : UInt16) : (host.withPort port).port = port := by
  cases host <;> rfl

@[simp] theorem host_withPort (host : Host) (port : UInt16) : (host.withPort port).host = host := by
  cases host <;> rfl

theorem withPort_eq_iff {host : Host} {port : UInt16} {a : SocketAddress} :
    host.withPort port = a ↔ a.host = host ∧ a.port = port := by
  constructor
  · rintro rfl
    exact ⟨host_withPort host port, port_withPort host port⟩
  · rintro ⟨rfl, rfl⟩
    cases a <;> rfl

end Host

/-- An address of the longer kind with its scope. -/
def readScoped (cs : List Char) : Option ((IPv6 × Nat) × List Char) :=
  (IPv6.read cs).bind fun p => some ((p.1, (SocketAddress.readScope p.2).1),
    (SocketAddress.readScope p.2).2)

theorem stopsAt_readScoped : StopsAt ']' readScoped := by
  have hnext (ip : IPv6) := stopsAt_readScope.bind fun scope => stopsAt_pure (ip, scope)
  exact stopsAt_IPv6.bind hnext

/-- The same between brackets. -/
def readBracketed (cs : List Char) : Option ((IPv6 × Nat) × List Char) :=
  (Text.expect '[' cs).bind (closed ']' readScoped)

theorem readBracketed_append {more : List Char} (hopen : '[' ∉ more) (hclose : ']' ∉ more)
    (cs : List Char) :
    readBracketed (cs ++ more) =
      (readBracketed cs).map fun (v, rest) => (v, rest ++ more) := by
  cases cs with
  | nil => rw [readBracketed, List.nil_append, expect_eq_none hopen]; rfl
  | cons c cs =>
      rw [readBracketed, readBracketed, List.cons_append, Text.expect, Text.expect]
      split
      · exact stopsAt_readScoped.closed_append hclose cs
      · rfl

/-- The host that is the whole text. -/
def Host.parse? (text : String) : Option Host :=
  (((IPv4.read text.toList).bind atEnd).map Host.v4).or
    (((readBracketed text.toList).bind atEnd).map fun (ip, scope) => Host.v6 ip scope)

namespace SocketAddress

theorem readIPv4_eq (cs : List Char) :
    readIPv4 cs = (IPv4.read cs).bind fun p => (readPort p.2).map (.v4 p.1) := by
  rw [readIPv4]
  cases IPv4.read cs with
  | none => rfl
  | some p => cases h : readPort p.2 <;> simp [h]

theorem readIPv6_eq (cs : List Char) :
    readIPv6 cs = (readBracketed cs).bind fun p => (readPort p.2).map (.v6 p.1.1 p.1.2) := by
  rw [readIPv6, readBracketed]
  cases Text.expect '[' cs with
  | none => rfl
  | some cs =>
      simp only [closed, readScoped, Option.bind_some, Option.bind_eq_bind]
      cases IPv6.read cs with
      | none => rfl
      | some p =>
          simp only [Option.bind_some]
          cases Text.expect ']' (readScope p.2).2 with
          | none => rfl
          | some rest => cases h : readPort rest <;> simp [h]

theorem read_port {port : UInt16} {digits : List Char} (h : Text.IsNumeral digits port.toNat) :
    NumberForm.port.read digits = some (port.toNat, []) := by
  obtain ⟨values, hspan, hne, hvalue⟩ := h.exists_spanDigits_eq
  have haccepts : NumberForm.port.accepts values = true := by
    have hbound : port.toNat < UInt16.size := port.toNat_lt_size
    simpa [NumberForm.accepts, NumberForm.port, hne, hvalue] using hbound
  have hspan : Text.spanDigits NumberForm.port.base digits = (values, []) := hspan
  rw [NumberForm.read, hspan]
  simp only [haccepts, if_true]
  exact congrArg (fun n => some (n, [])) hvalue

theorem readPort_append {port : UInt16} {digits : List Char}
    (h : Text.IsNumeral digits port.toNat) (rest : List Char) :
    readPort (rest ++ ':' :: digits) = if rest = [] then some port else none := by
  have hstops : StopsAt ':' NumberForm.port.read := stopsAt_number rfl
  cases rest with
  | nil => simp [readPort, Text.expect, read_port h]
  | cons c rest =>
      rw [if_neg (List.cons_ne_nil _ _), readPort, List.cons_append, Text.expect]
      split
      · -- The colon of the port would have to follow a port.
        simp only [Option.bind_eq_bind, Option.bind_some, hstops.append]
        cases NumberForm.port.read rest <;> simp
      · rfl

/-- A reader that leaves the port alone is followed by the port exactly if it reads all before. -/
theorem bind_readPort {α : Type} {read : List Char → Option (α × List Char)}
    {cs digits : List Char} {port : UInt16} (hport : Text.IsNumeral digits port.toNat)
    (hread : read (cs ++ ':' :: digits) =
      (read cs).map fun (v, rest) => (v, rest ++ ':' :: digits)) (make : α → Host) :
    ((read (cs ++ ':' :: digits)).bind fun p =>
        (readPort p.2).map fun port => (make p.1).withPort port) =
      (((read cs).bind atEnd).map make).map (·.withPort port) := by
  rw [hread]
  cases read cs with
  | none => rfl
  | some p =>
      obtain ⟨v, rest⟩ := p
      simp only [Option.map_some, Option.bind_some, readPort_append hport, atEnd]
      split <;> rfl

/-- An address is read exactly if a host is read from what stands before the port. -/
theorem parse?_append {text host : String} {digits : List Char} {port : UInt16}
    (hport : Text.IsNumeral digits port.toNat)
    (htext : text.toList = host.toList ++ ':' :: digits) :
    parse? text = (Host.parse? host).map (·.withPort port) := by
  have hfree {c : Char} (hcolon : c ≠ ':') (hc : c.isDigit = false) : c ∉ ':' :: digits := by
    rw [List.mem_cons, not_or]
    refine ⟨hcolon, fun hmem => ?_⟩
    rw [hport.digits c hmem] at hc
    contradiction
  have h4 : readIPv4 (host.toList ++ ':' :: digits) =
      (((IPv4.read host.toList).bind atEnd).map .v4).map (Host.withPort port) := by
    have hstops : StopsAt ':' IPv4.read := stopsAt_IPv4 rfl (by decide)
    rw [readIPv4_eq]
    exact bind_readPort hport (hstops.append host.toList digits) Host.v4
  have h6 : readIPv6 (host.toList ++ ':' :: digits) =
      (((readBracketed host.toList).bind atEnd).map fun (ip, scope) => .v6 ip scope).map
        (Host.withPort port) := by
    have happend := readBracketed_append (hfree (c := '[') (by decide) rfl)
      (hfree (c := ']') (by decide) rfl) host.toList
    rw [readIPv6_eq]
    exact bind_readPort hport happend fun (ip, scope) => Host.v6 ip scope
  rw [parse?, htext, h4, h6, Host.parse?, Option.map_or]

end SocketAddress

end PathRouter.Net

namespace PathRouter.Settings

/-- The address is that of the host, read by itself, with the port. -/
theorem listenAddress_eq_ok_iff {s : Settings} {a : Net.SocketAddress} :
    s.listenAddress = .ok a ↔ Net.Host.parse? s.host = some a.host ∧ a.port = s.port := by
  have htext : s.hostPort.toList = s.host.toList ++ ':' :: (toString s.port.toNat).toList := by
    simp [hostPort]
  have haddress : s.address? = (Net.Host.parse? s.host).map (Net.Host.withPort s.port) :=
    Net.SocketAddress.parse?_append (Text.isNumeral_toString _) htext
  rw [listenAddress, haddress]
  cases Net.Host.parse? s.host with
  | none => simp
  | some host =>
      simp only [Option.map_some, Except.ok.injEq, Option.some.injEq]
      rw [Net.Host.withPort_eq_iff, @eq_comm _ host]

/-- Whether there is an address to listen on depends on the host alone, and so does the address up
to its port, which is the one that is set. The host is read as a whole, whatever is written in
it. -/
theorem listenAddress_port {s t : Settings} (hhost : s.host = t.host) :
    ((∃ a, s.listenAddress = .ok a) ↔ ∃ b, t.listenAddress = .ok b) ∧
      (∀ a b, s.listenAddress = .ok a → t.listenAddress = .ok b →
        a.port = s.port ∧ b.port = t.port ∧ a.host = b.host) ∧
      ∀ a, s.listenAddress = .ok a ↔ Net.Host.parse? s.host = some a.host ∧ a.port = s.port := by
  have hexists (r : Settings) :
      (∃ a, r.listenAddress = .ok a) ↔ ∃ host, Net.Host.parse? r.host = some host := by
    simp only [listenAddress_eq_ok_iff]
    constructor
    · rintro ⟨a, hparse, -⟩
      exact ⟨_, hparse⟩
    · rintro ⟨host, hparse⟩
      exact ⟨host.withPort r.port, by simpa using hparse⟩
  refine ⟨by rw [hexists, hexists, hhost], fun a b ha hb => ?_, fun a => listenAddress_eq_ok_iff⟩
  obtain ⟨hparse, hport⟩ := listenAddress_eq_ok_iff.1 ha
  obtain ⟨hparse', hport'⟩ := listenAddress_eq_ok_iff.1 hb
  rw [hhost, hparse'] at hparse
  exact ⟨hport, hport', (Option.some.inj hparse).symm⟩

/-- The host has colons of its own, and digits right before its end. -/
theorem listenAddress_port_scoped :
    ∃ a b, Settings.listenAddress { host := "[fe80::1%80]", port := 80 } = .ok a ∧
      Settings.listenAddress { host := "[fe80::1%80]", port := 443 } = .ok b ∧
      a.port = 80 ∧ b.port = 443 ∧ a.host = b.host := by
  have hhost : ({ host := "[fe80::1%80]", port := 80 } : Settings).host =
      ({ host := "[fe80::1%80]", port := 443 } : Settings).host := rfl
  obtain ⟨hiff, hboth, -⟩ := listenAddress_port hhost
  have ha : Settings.listenAddress { host := "[fe80::1%80]", port := 80 } =
      .ok (.v6 ⟨[0xfe80, 0, 0, 0, 0, 0, 0, 1]⟩ 80 80) := by cbv
  obtain ⟨b, hb⟩ := hiff.1 ⟨_, ha⟩
  exact ⟨_, b, ha, hb, hboth _ b ha hb⟩

/-- A port in the host is not the port. -/
example : Settings.address? { host := "127.0.0.1:80" } = none := by cbv

end PathRouter.Settings
