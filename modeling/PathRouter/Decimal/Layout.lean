import PathRouter.Decimal.Shortest

/-!
Writing a floating-point number. Both layouts write the fewest digits that read back; they differ
in the choice between two such numbers that are as near, in whether an exponent may be used, and in
whether a whole number keeps its point.
-/

namespace PathRouter.Decimal

structure Layout where
  tie : Tie
  /-- The decimal points, counted from before the first digit, that are written without an
  exponent. Anything is if there is no bound. -/
  positional : Option (Int × Int)
  /-- A whole number is written with `.0` after it. -/
  keepPoint : Bool

/-- In data, a number is positional from `0.00001` up to sixteen digits, and always shows that it
is not an integer. -/
def Layout.data : Layout := ⟨.toEven, some (-4, 16), true⟩

/-- In running text a number is always positional. -/
def Layout.text : Layout := ⟨.up, none, false⟩

def zeros (n : Nat) : List Char := List.replicate n '0'

/-- The digits with the decimal point before the digit numbered `point`. -/
def plain (keepPoint : Bool) (digits : List Char) (point : Int) : List Char :=
  if point ≤ 0 then ['0', '.'] ++ zeros (-point).toNat ++ digits
  else if digits.length ≤ point.toNat then
    digits ++ zeros (point.toNat - digits.length) ++ (if keepPoint then ['.', '0'] else [])
  else digits.take point.toNat ++ ['.'] ++ digits.drop point.toNat

def withExponent (digits : List Char) (point : Int) : List Char :=
  digits.take 1 ++ (if digits.length ≤ 1 then [] else '.' :: digits.drop 1) ++
    'e' :: (toString (point - 1)).toList

def Layout.magnitude (layout : Layout) (x : Float) : List Char :=
  let s := shortest layout.tie x
  let digits := Nat.toDigits 10 s.digits
  let point := s.exponent + Int.ofNat digits.length
  if s.digits = 0 then plain layout.keepPoint ['0'] 1
  else match layout.positional with
    | some (least, most) =>
        if least ≤ point && point ≤ most then plain layout.keepPoint digits point
        else withExponent digits point
    | none => plain layout.keepPoint digits point

/-- The text of a number; the sign of zero is kept. -/
def Layout.render (layout : Layout) (x : Float) : String :=
  if x.isNaN then "NaN"
  else
    let sign := if x.toBits.toNat < 0x8000000000000000 then [] else ['-']
    let body := if x.isInf then ['i', 'n', 'f'] else layout.magnitude x
    String.ofList (sign ++ body)

end PathRouter.Decimal
