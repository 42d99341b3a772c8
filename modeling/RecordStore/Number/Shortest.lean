import RecordStore.Number.Double

namespace RecordStore

/-!
# Shortest decimals

Every finite double is the rounding of a whole interval of reals. Its shortest decimal is the point
of that interval on the coarsest decimal grid that meets it; of several such points the nearest to
the double, and of two at the same distance the one a `Tie` names.
-/

/-- Which of two equally near neighbours is taken. -/
inductive Tie
  | even
  | up
deriving DecidableEq

/-- The number `digits · 10 ^ exponent`. -/
structure Decimal where
  digits : Nat
  exponent : Int
deriving DecidableEq

/-- The reals that round to a double, in units of `2 ^ power`: `low` and `high` are the ends and
`centre` is the double itself. -/
structure RoundingInterval where
  low : Nat
  centre : Nat
  high : Nat
  power : Int
  closed : Bool

namespace RoundingInterval

/-- The gap below the first mantissa of a binade is half the gap above it. -/
def ofDouble (x : Double) : RoundingInterval :=
  let below := if x.fraction = 0 ∧ 1 < x.exponentField then 1 else 2
  { low := 4 * x.mantissa - below
    centre := 4 * x.mantissa
    high := 4 * x.mantissa + 2
    power := x.power - 2
    closed := x.mantissa % 2 = 0 }

/-- One step of the grid `10 ^ exponent` and one unit of the interval, on a common scale. -/
def gridStep (interval : RoundingInterval) (exponent : Int) : Nat :=
  tenTo exponent.toNat * twoTo (-interval.power).toNat

def unit (interval : RoundingInterval) (exponent : Int) : Nat :=
  twoTo interval.power.toNat * tenTo (-exponent).toNat

def contains (interval : RoundingInterval) (exponent : Int) (point : Nat) : Bool :=
  let place := point * interval.gridStep exponent
  let low := interval.low * interval.unit exponent
  let high := interval.high * interval.unit exponent
  if interval.closed then low ≤ place && place ≤ high else low < place && place < high

/-- The grid point of the interval nearest to its centre, if the grid meets the interval. -/
def nearest? (interval : RoundingInterval) (tie : Tie) (exponent : Int) : Option Nat :=
  let step := interval.gridStep exponent
  let centre := interval.centre * interval.unit exponent
  let below := centre / step
  let rest := 2 * (centre % step)
  let roundsUp :=
    step < rest || (rest == step && match tie with | .even => below % 2 == 1 | .up => true)
  match interval.contains exponent below, interval.contains exponent (below + 1) with
  | true, true => some (if roundsUp then below + 1 else below)
  | true, false => some below
  | false, true => some (below + 1)
  | false, false => none

/-- The first grid, going down from `exponent`, that meets the interval. -/
def search (interval : RoundingInterval) (tie : Tie) : Nat → Int → Decimal
  | 0, exponent => ⟨interval.centre * interval.unit exponent / interval.gridStep exponent, exponent⟩
  | steps + 1, exponent =>
    match interval.nearest? tie exponent with
    | some digits => ⟨digits, exponent⟩
    | none => search interval tie steps (exponent - 1)

end RoundingInterval

/-- An exponent whose power of ten is above the magnitude of a nonzero finite double. -/
def Double.coarseExponent (x : Double) : Int :=
  let top : Int := x.mantissa.log2 + x.power + 1
  if 0 ≤ top then top / 3 + 1 else -(-top * 3 / 10)

/-- The shortest decimal that reads back as the magnitude of `x`. -/
def Double.shortest (tie : Tie) (x : Double) : Decimal :=
  if x.mantissa = 0 then ⟨0, 0⟩
  else (RoundingInterval.ofDouble x).search tie 400 x.coarseExponent

/-- The magnitude of a finite double to `places` significant digits, a half going up. -/
def Double.significant (places : Nat) (x : Double) : Decimal :=
  if x.mantissa = 0 then ⟨0, 0⟩
  else
    let rec go : Nat → Int → Decimal
      | 0, exponent => ⟨0, exponent⟩
      | steps + 1, exponent =>
        let num := x.numerator * tenTo (-exponent).toNat
        let den := x.denominator * tenTo exponent.toNat
        let digits := (2 * num + den) / (2 * den)
        if tenTo (places - 1) ≤ digits then
          if digits < tenTo places then ⟨digits, exponent⟩ else ⟨digits / 10, exponent + 1⟩
        else go steps (exponent - 1)
    go 400 (x.coarseExponent - places)

end RecordStore
