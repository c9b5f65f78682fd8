/-!
The fewest digits that read back. A positive binary number stands for every real that rounds to
it; these reals form an interval. Of the decimal grids `…, 10, 1, 0.1, …` the coarsest that has a
point in the interval is taken, and of its points in the interval the one nearest to the number.
Which of two points that are as near is taken is for the layout to say.
-/

namespace PathRouter.Decimal

/-- The number `digits · 10 ^ exponent`. -/
structure Scientific where
  digits : Nat
  exponent : Int
  deriving DecidableEq, Repr

/-- The number `significand · 2 ^ exponent`. The next smaller number is only half as far away as
the next larger one where `tightBelow` holds. -/
structure Binary where
  significand : Nat
  exponent : Int
  tightBelow : Bool
  deriving DecidableEq, Repr

/-- Which of two points of a grid is taken if both are as near. -/
inductive Tie where
  /-- The larger one. -/
  | up
  /-- The one whose last digit is even. -/
  | toEven
  deriving DecidableEq, Repr

/-- The point above `below` is taken on a tie. -/
def Tie.takesAbove (tie : Tie) (below : Nat) : Bool :=
  match tie with
  | .up => true
  | .toEven => below % 2 = 1

namespace Binary

/-- The absolute value of a finite number of 64 bits. -/
def ofFloat (x : Float) : Binary :=
  let bits := x.toBits.toNat
  let hidden := 1 <<< 52
  let fraction := bits % hidden
  let field := bits / hidden % 2048
  if field = 0 then ⟨fraction, -1074, false⟩
  else ⟨hidden + fraction, Int.ofNat field - 1075, fraction == 0 && field > 1⟩

/-- Decides `quarters / 4 · 2 ^ exponent` against `digits · 10 ^ e` through the two products that
the common denominator gives. -/
def onGrid (b : Binary) (e : Int) : Nat × Nat :=
  let q := b.exponent - 2
  (Nat.pow 10 (-e).toNat <<< q.toNat, Nat.pow 10 e.toNat <<< (-q).toNat)

/-- The point of the grid `10 ^ e` that is nearest to the number, if it rounds to the number. -/
def nearest? (tie : Tie) (b : Binary) (e : Int) : Option Scientific :=
  let (unit, step) := b.onGrid e
  let value := 4 * b.significand * unit
  let low := (4 * b.significand - if b.tightBelow then 1 else 2) * unit
  let high := (4 * b.significand + 2) * unit
  let hits (d : Nat) : Bool :=
    if b.significand % 2 = 0 then low ≤ d * step && d * step ≤ high
    else low < d * step && d * step < high
  let below := value / step
  let gapBelow := value - below * step
  let gapAbove := (below + 1) * step - value
  let aboveFirst := gapAbove < gapBelow || (gapAbove = gapBelow && tie.takesAbove below)
  let candidates := if aboveFirst then [below + 1, below] else [below, below + 1]
  (candidates.find? hits).map fun d => ⟨d, e⟩

/-- Tries the grid `10 ^ e` and then the finer ones, at most `tries` in all. -/
def search (tie : Tie) (b : Binary) (e : Int) : Nat → Option Scientific
  | 0 => none
  | tries + 1 => (b.nearest? tie e).or (b.search tie (e - 1) tries)

/-- An exponent whose grid is too coarse to have a point in the interval. -/
def coarsest (b : Binary) : Int :=
  (Int.ofNat (Nat.log2 b.significand + 1) + b.exponent) * 30103 / 100000 + 2

end Binary

/-- The absolute value of a finite number in the fewest digits that read back; seventeen digits
always do. -/
def shortest (tie : Tie) (x : Float) : Scientific :=
  let b := Binary.ofFloat x
  if b.significand = 0 then ⟨0, 0⟩ else (b.search tie b.coarsest 24).getD ⟨0, 0⟩

end PathRouter.Decimal
