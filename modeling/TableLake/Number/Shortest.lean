/-
# TableLake.Number.Shortest — the shortest decimal that reads back

A positive binary fraction `m * 2 ^ q` stands for every real that rounds to it:
half a unit above, half a unit below (a quarter at a power of two, where the
neighbour below is nearer), the ends included when `m` is even.  Among the
decimals `d * 10 ^ k` inside that interval the one with the largest `k` has the
fewest digits; of two neighbours on that grid the nearer is taken.
-/

namespace TableLake.Number

set_option autoImplicit false

/-- A positive decimal `coefficient * 10 ^ exponent`. -/
structure Decimal where
  coefficient : Nat
  exponent : Int
deriving DecidableEq, Repr

/-- A fraction of natural numbers. -/
structure Fraction where
  num : Nat
  den : Nat
deriving DecidableEq, Repr

/-- The number `n * base ^ e` as a fraction. -/
def Fraction.scaled (n base : Nat) (e : Int) : Fraction :=
  if 0 ≤ e then ⟨n * Nat.pow base e.toNat, 1⟩ else ⟨n, Nat.pow base (-e).toNat⟩

def Fraction.le (a b : Fraction) : Bool :=
  a.num * b.den ≤ b.num * a.den

def Fraction.lt (a b : Fraction) : Bool :=
  a.num * b.den < b.num * a.den

/-- The reals that round to a binary fraction. -/
structure Interval where
  low : Fraction
  value : Fraction
  high : Fraction
  closed : Bool
deriving Repr

/-- The interval around `m * 2 ^ q`; `narrow` says that the neighbour below is
half as far as the one above. -/
def Interval.around (m : Nat) (q : Int) (narrow : Bool) : Interval where
  low := Fraction.scaled (4 * m - (if narrow then 1 else 2)) 2 (q - 2)
  value := Fraction.scaled (4 * m) 2 (q - 2)
  high := Fraction.scaled (4 * m + 2) 2 (q - 2)
  closed := m % 2 = 0

def Interval.contains (i : Interval) (x : Fraction) : Bool :=
  if i.closed then i.low.le x && x.le i.high else i.low.lt x && x.lt i.high

/-- The nearest point of the grid of multiples of `10 ^ k` that lies inside. -/
def Interval.gridPoint (i : Interval) (k : Int) : Option Nat :=
  let unit := Fraction.scaled 1 10 k
  let below := (i.value.num * unit.den) / (i.value.den * unit.num)
  let point (d : Nat) := Fraction.scaled d 10 k
  let lowIn := 0 < below && i.contains (point below)
  let highIn := i.contains (point (below + 1))
  if lowIn && highIn then
    let middle : Fraction := ⟨(2 * below + 1) * unit.num, 2 * unit.den⟩
    if i.value.lt middle || (!middle.lt i.value && below % 2 = 0) then some below
    else some (below + 1)
  else if lowIn then some below
  else if highIn then some (below + 1)
  else none

/-- Search the grids from `10 ^ k` downwards. -/
def Interval.search (i : Interval) : Nat → Int → Option Decimal
  | 0, _ => none
  | fuel + 1, k =>
      match i.gridPoint k with
      | some d => some ⟨d, k⟩
      | none => i.search fuel (k - 1)

/-- The shortest decimal of `m * 2 ^ q`; every double has one between `10 ^ 309`
and `10 ^ -345`. -/
def shortest (m : Nat) (q : Int) (narrow : Bool) : Decimal :=
  ((Interval.around m q narrow).search 655 309).getD ⟨m, 0⟩

end TableLake.Number
