import PathRouter.Text.Digits

/-!
Reading floating-point numbers. A number is its decimal digits and a power of ten; the result is the
nearest number of 64 bits, and infinite where the digits go beyond all finite ones.
-/

namespace PathRouter.Decimal

/-- The number `digits · 10 ^ exponent`. Exponents that are certain to overflow or to leave nothing
are not worked out. -/
def toFloat (digits : Nat) (exponent : Int) : Float :=
  let magnitude := exponent + Int.ofNat (Nat.toDigits 10 digits).length
  if digits = 0 || magnitude < -400 then 0.0
  else if 400 < magnitude then 1.0 / 0.0
  else Float.ofScientific digits (exponent < 0) exponent.natAbs

/-- The number with the given digits before and after the point. -/
def ofParts (negative : Bool) (whole fraction : List Nat) (exponent : Int) : Float :=
  let x := toFloat (Text.valueOf 10 (whole ++ fraction)) (exponent - Int.ofNat fraction.length)
  if negative then -x else x

/-- Names of numbers that have no digits. -/
def named? (word : String) : Option Float :=
  if word = "inf" || word = "infinity" then some (1.0 / 0.0)
  else if word = "nan" then some (0.0 / 0.0)
  else none

/-- Reads an exponent after its mark; the text ends with it. -/
def readExponent (cs : List Char) : Option Int :=
  let (negative, cs) := Text.readSign cs
  match Text.spanDigits 10 cs with
  | ([], _) => none
  | (digits, []) =>
      let n := Int.ofNat (Text.valueOf 10 digits)
      some (if negative then -n else n)
  | _ => none

/-- Reads a whole text. A point needs a digit on one side only, and names count in any case of
their letters. -/
def parse? (text : String) : Option Float :=
  let (negative, cs) := Text.readSign text.toList
  match named? (String.ofList (cs.map Char.toLower)) with
  | some x => some (if negative then -x else x)
  | none =>
      let (whole, cs) := Text.spanDigits 10 cs
      let (fraction, cs) := match cs with
        | '.' :: rest => Text.spanDigits 10 rest
        | _ => ([], cs)
      let exponent := match cs with
        | [] => some 0
        | c :: rest => if c = 'e' || c = 'E' then readExponent rest else none
      if whole = [] && fraction = [] then none
      else exponent.map (ofParts negative whole fraction)

/-- Reads a whole text as an integer: digits with or without a sign. -/
def parseInt? (text : String) : Option Int :=
  let (negative, cs) := Text.readSign text.toList
  match Text.spanDigits 10 cs with
  | ([], _) => none
  | (digits, []) =>
      let n := Int.ofNat (Text.valueOf 10 digits)
      some (if negative then -n else n)
  | _ => none

end PathRouter.Decimal
