/-
  The shortest decimal that reads back as a given binary fraction.

  A finite double is `m * 2^q`.  The reals that round to it form an interval whose
  ends belong to it if `m` is even.  For one digit, then two and so on, the decimals
  of that many digits form a grid; the first grid with a point in the interval gives
  the digits, and of two such points the nearer one is taken.
-/

namespace StaticSite

/-- A decimal `digits * 10^exponent`. -/
structure Decimal where
  digits : Nat
  exponent : Int
  deriving DecidableEq, Repr

namespace Decimal

/-- A positive fraction of natural numbers. -/
structure Ratio where
  num : Nat
  den : Nat

/-- The fraction `n * 2^e`. -/
def Ratio.scale2 (n : Nat) (e : Int) : Ratio :=
  if 0 ≤ e then ⟨n * Nat.pow 2 e.toNat, 1⟩ else ⟨n, Nat.pow 2 (-e).toNat⟩

/-- The fraction `n * 10^e`. -/
def Ratio.scale10 (n : Nat) (e : Int) : Ratio :=
  if 0 ≤ e then ⟨n * Nat.pow 10 e.toNat, 1⟩ else ⟨n, Nat.pow 10 (-e).toNat⟩

def Ratio.lt (a b : Ratio) : Bool := a.num * b.den < b.num * a.den

/-- The absolute difference. -/
def Ratio.dist (a b : Ratio) : Ratio :=
  let x := a.num * b.den
  let y := b.num * a.den
  ⟨max x y - min x y, a.den * b.den⟩

/-- The interval of reals that round to `m * 2^q`. -/
structure Interval where
  low : Ratio
  high : Ratio
  closed : Bool

def Interval.contains (i : Interval) (r : Ratio) : Bool :=
  if i.closed then !r.lt i.low && !i.high.lt r else i.low.lt r && r.lt i.high

/-- The interval of a double; at a power of two the gap below is half as wide. -/
def Interval.ofBinary (m : Nat) (q : Int) (narrowBelow : Bool) : Interval :=
  { low := if narrowBelow then Ratio.scale2 (4 * m - 1) (q - 2) else Ratio.scale2 (2 * m - 1) (q - 1)
    high := Ratio.scale2 (2 * m + 1) (q - 1)
    closed := m % 2 == 0 }

/-- The neighbours of a value on the grid of step `10^exponent`, the nearer one first. -/
def neighbours (value : Ratio) (exponent : Int) : List Decimal :=
  let step := Ratio.scale10 1 exponent
  let below := value.num * step.den / (value.den * step.num)
  let lower : Decimal := ⟨below, exponent⟩
  let upper : Decimal := ⟨below + 1, exponent⟩
  let toLower := value.dist (Ratio.scale10 below exponent)
  let toUpper := value.dist (Ratio.scale10 (below + 1) exponent)
  if toUpper.lt toLower || (!toLower.lt toUpper && below % 2 == 1) then [upper, lower]
  else [lower, upper]

/-- Tries finer and finer grids. -/
def search (value : Ratio) (interval : Interval) : (grids : Nat) → (exponent : Int) → Decimal
  | 0, exponent => ⟨value.num / value.den, exponent⟩
  | grids + 1, exponent =>
    match (neighbours value exponent).find? fun d =>
        d.digits > 0 && interval.contains (Ratio.scale10 d.digits d.exponent) with
    | some d => d
    | none => search value interval grids (exponent - 1)

/-- The shortest decimal that reads back as the double with mantissa `m` and exponent `q`. -/
def shortest (m : Nat) (q : Int) (narrowBelow : Bool) : Decimal :=
  let value := Ratio.scale2 m q
  let top : Int := (Nat.log2 m + q) * 30103 / 100000 + 1
  search value (Interval.ofBinary m q narrowBelow) 24 top

end Decimal

end StaticSite
