import PathRouter.Text.Digits

/-!
Numerical addresses: how they are read, and the one text that each of them is written as. Every
reader returns what follows the address.
-/

namespace PathRouter.Net

/-- Which numbers may stand in some place of an address. -/
structure NumberForm where
  base : Nat
  maxDigits : Option Nat
  leadingZeros : Bool
  bound : Nat

def NumberForm.accepts (form : NumberForm) (digits : List Nat) : Bool :=
  digits ≠ [] && form.maxDigits.all (digits.length ≤ ·) &&
    (form.leadingZeros || digits.length = 1 || digits.head? ≠ some 0) &&
    Text.valueOf form.base digits < form.bound

def NumberForm.read (form : NumberForm) (cs : List Char) : Option (Nat × List Char) :=
  let (digits, rest) := Text.spanDigits form.base cs
  if form.accepts digits then some (Text.valueOf form.base digits, rest) else none

def NumberForm.octet : NumberForm := ⟨10, some 3, false, 256⟩

def NumberForm.group : NumberForm := ⟨16, some 4, true, UInt16.size⟩

def NumberForm.scope : NumberForm := ⟨10, none, true, UInt32.size⟩

def NumberForm.port : NumberForm := ⟨10, none, true, UInt16.size⟩

structure IPv4 where
  first : Nat
  second : Nat
  third : Nat
  fourth : Nat
  deriving DecidableEq, Repr

namespace IPv4

def read (cs : List Char) : Option (IPv4 × List Char) := do
  let (a, cs) ← NumberForm.octet.read cs
  let (b, cs) ← NumberForm.octet.read (← Text.expect '.' cs)
  let (c, cs) ← NumberForm.octet.read (← Text.expect '.' cs)
  let (d, cs) ← NumberForm.octet.read (← Text.expect '.' cs)
  some (⟨a, b, c, d⟩, cs)

/-- The address as two groups of sixteen bits. -/
def groups (ip : IPv4) : List Nat := [256 * ip.first + ip.second, 256 * ip.third + ip.fourth]

def render (ip : IPv4) : String :=
  ".".intercalate ([ip.first, ip.second, ip.third, ip.fourth].map toString)

end IPv4

/-- Eight groups of sixteen bits. -/
structure IPv6 where
  groups : List Nat
  deriving DecidableEq, Repr

namespace IPv6

/-- Reads what stands before each group but the first one. -/
def readSeparator (isFirst : Bool) (cs : List Char) : Option (List Char) :=
  if isFirst then some cs else Text.expect ':' cs

/-- Reads groups into at most `room` places. An IPv4 address may take the place of two groups, and
is the last thing that is read; the second component tells whether there was one. -/
def readGroups (isFirst : Bool) : (room : Nat) → List Char → List Nat × Bool × List Char
  | 0, cs => ([], false, cs)
  | room + 1, cs =>
      let embedded := if 0 < room then (readSeparator isFirst cs).bind IPv4.read else none
      match embedded with
      | some (ip, rest) => (ip.groups, true, rest)
      | none =>
          match (readSeparator isFirst cs).bind NumberForm.group.read with
          | some (group, rest) =>
              let (groups, hasIPv4, rest) := readGroups false room rest
              (group :: groups, hasIPv4, rest)
          | none => ([], false, cs)

/-- Two colons stand for at least one group of zeros; no IPv4 address may stand before them. -/
def read (cs : List Char) : Option (IPv6 × List Char) :=
  let (head, hasIPv4, cs) := readGroups true 8 cs
  if head.length = 8 then some (⟨head⟩, cs)
  else if hasIPv4 then none
  else do
    let cs ← Text.expect ':' (← Text.expect ':' cs)
    let (tail, _, cs) := readGroups true (7 - head.length) cs
    some (⟨head ++ List.replicate (8 - head.length - tail.length) 0 ++ tail⟩, cs)

/-- How many zeros a list starts with. -/
def leadingZeros (groups : List Nat) : Nat := (groups.takeWhile (· == 0)).length

/-- Where the longest run of zeros starts, and its length; of equally long runs the first one. -/
def longestRun (groups : List Nat) : Nat × Nat :=
  (List.range groups.length).foldl
    (fun best start =>
      let length := leadingZeros (groups.drop start)
      if best.2 < length then (start, length) else best)
    (0, 0)

def renderGroups (groups : List Nat) : String :=
  ":".intercalate (groups.map fun g => String.ofList (Text.hexDigits g))

/-- The address of four octets that this one stands for, if it stands for one. -/
def embedded? (ip : IPv6) : Option IPv4 :=
  match ip.groups with
  | [0, 0, 0, 0, 0, 0xffff, high, low] =>
      some ⟨high / 256, high % 256, low / 256, low % 256⟩
  | _ => none

/-- The address that names no interface. -/
def isUnspecified (ip : IPv6) : Bool := ip.groups.all (· == 0)

/-- The longest run of two or more groups of zeros is written as two colons. An address that
stands for one of four octets shows these. -/
def render (ip : IPv6) : String :=
  match ip.embedded? with
  | some embedded => "::ffff:" ++ embedded.render
  | none =>
      let groups := ip.groups
      let (start, length) := longestRun groups
      if length ≤ 1 then renderGroups groups
      else renderGroups (groups.take start) ++ "::" ++ renderGroups (groups.drop (start + length))

end IPv6

end PathRouter.Net
