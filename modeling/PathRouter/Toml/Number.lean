import PathRouter.Decimal.Reader
import PathRouter.Json

/-!
TOML numbers. Single underscores may stand between digits. An integer has 64 bits; a number with a
point or an exponent is a floating-point number and may not be too large for one.
-/

namespace PathRouter.Toml

/-- The digits of a run in which underscores stand only between two digits. -/
def ungroup (base : Nat) : List Char → Option (List Nat)
  | [] => none
  | [c] => (Text.digitValue? base c).map ([·])
  | c :: '_' :: rest => do
      let d ← Text.digitValue? base c
      let later ← ungroup base rest
      some (d :: later)
  | c :: rest => do
      let d ← Text.digitValue? base c
      let later ← ungroup base rest
      some (d :: later)

/-- Reads the longest run of digits and underscores. -/
def readDigits (base : Nat) (cs : List Char) : Option (List Nat × List Char) :=
  let inRun (c : Char) : Bool := c = '_' || (Text.digitValue? base c).isSome
  (ungroup base (cs.takeWhile inRun)).map (·, cs.dropWhile inRun)

/-- An integer if it has at most 64 bits. -/
def integer? (negative : Bool) (n : Nat) : Option Json :=
  if negative then if n ≤ 0x8000000000000000 then some (.int (-n)) else none
  else if n < 0x8000000000000000 then some (.int n) else none

/-- Reads an integer of another base after its mark. -/
def readRadix (base : Nat) (cs : List Char) : Option (Json × List Char) := do
  let (digits, rest) ← readDigits base cs
  return (← integer? false (Text.valueOf base digits), rest)

/-- Reads a point and the digits after it if there is one. -/
def readFraction : List Char → Option (Option (List Nat) × List Char)
  | '.' :: rest => (readDigits 10 rest).map fun (digits, rest) => (some digits, rest)
  | cs => some (none, cs)

/-- Reads an exponent with its mark if there is one. -/
def readExponent : List Char → Option (Option Int × List Char)
  | c :: rest =>
      if c = 'e' || c = 'E' then do
        let (negative, rest) := Text.readSign rest
        let (digits, rest) ← readDigits 10 rest
        let n := Int.ofNat (Text.valueOf 10 digits)
        some (some (if negative then -n else n), rest)
      else some (none, c :: rest)
  | [] => some (none, [])

/-- Numbers above all finite ones are refused, numbers below them are not. -/
def finite? (negative : Bool) (whole fraction : List Nat) (exponent : Int) : Option Json :=
  let x := Decimal.ofParts negative whole fraction exponent
  if x.isInf && !negative then none else some (.float x)

/-- Reads a decimal number after its sign. A whole part of several digits starts with none that is
zero. -/
def readDecimal (negative : Bool) (cs : List Char) : Option (Json × List Char) := do
  let (whole, cs) ← readDigits 10 cs
  if 1 < whole.length && whole.head? = some 0 then none
  let (fraction, cs) ← readFraction cs
  let (exponent, cs) ← readExponent cs
  match fraction, exponent with
  | none, none => return (← integer? negative (Text.valueOf 10 whole), cs)
  | _, _ => return (← finite? negative whole (fraction.getD []) (exponent.getD 0), cs)

def readNumber : List Char → Option (Json × List Char)
  | '0' :: 'x' :: rest => readRadix 16 rest
  | '0' :: 'o' :: rest => readRadix 8 rest
  | '0' :: 'b' :: rest => readRadix 2 rest
  | cs =>
      let (negative, cs) := Text.readSign cs
      match cs with
      | 'i' :: 'n' :: 'f' :: rest =>
          some (.float (if negative then -(1.0 / 0.0) else 1.0 / 0.0), rest)
      | 'n' :: 'a' :: 'n' :: rest => some (.float (0.0 / 0.0), rest)
      | _ => readDecimal negative cs

end PathRouter.Toml
