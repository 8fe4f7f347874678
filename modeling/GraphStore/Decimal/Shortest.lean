import GraphStore.Decimal.Double

/-!
# The fewest digits that read back

Every real number closer to a double than to its neighbours rounds to that double.  Of the
decimals in this interval, `Shortest.decimal` takes one with the fewest digits, and of those the
one nearest to the double.  All comparisons are between whole numbers.
-/

namespace GraphStore.Shortest

/-- The reals that round to a double: `low / den` to `high / den` around `value / den`, ends
included when `closed`. -/
structure Interval where
  /-- Numerator of the lower end. -/
  low : Nat
  value : Nat
  high : Nat
  /-- The common denominator. -/
  den : Nat
  /-- Whether the ends round to the double. -/
  closed : Bool

/-- The interval of a positive rank.  The gap below a power of two is half the gap above it. -/
def interval (rank : Nat) : Interval :=
  let m := Double.significand rank
  let q := Double.exponent rank - 2
  let gap := if rank % Double.binade = 0 && 2 * Double.binade ≤ rank then 1 else 2
  let up := twoPow q.toNat
  { low := (4 * m - gap) * up, value := 4 * m * up, high := (4 * m + 2) * up,
    den := twoPow (-q).toNat, closed := m % 2 == 0 }

/-- Whether `a * 10 ^ p` lies in the interval. -/
def Interval.holds (i : Interval) (a : Nat) (p : Int) : Bool :=
  let x := a * tenPow p.toNat * i.den
  let unit := tenPow (-p).toNat
  if i.closed then i.low * unit ≤ x && x ≤ i.high * unit
  else i.low * unit < x && x < i.high * unit

/-- The least `k` with the value below `10 ^ k`. -/
def Interval.point (i : Interval) : Int :=
  let guess := Int.fdiv (((i.value.log2 : Int) - (i.den.log2 : Int)) * 30103) 100000 - 1
  let above (k : Int) : Bool := i.value * tenPow (-k).toNat < tenPow k.toNat * i.den
  ([guess, guess + 1, guess + 2, guess + 3].find? above).getD (guess + 4)

/-- The decimal `a * 10 ^ p` nearest to the value among those of the interval, for this `p`. -/
def Interval.onGrid (i : Interval) (p : Int) : Option Nat :=
  let num := i.value * tenPow (-p).toNat
  let den := i.den * tenPow p.toNat
  let below := num / den
  match i.holds below p, i.holds (below + 1) p with
  | true, true => some (Double.roundDiv num den)
  | true, false => some below
  | false, true => some (below + 1)
  | false, false => none

/-- The same decimal `a * 10 ^ p` without zeros at the end of `a`. -/
def dropZeros (a : Nat) (p : Int) : Nat × Int :=
  if 0 < a ∧ a % 10 = 0 then dropZeros (a / 10) (p + 1) else (a, p)
termination_by a

/-- Digits `a` and exponent `p` of the shortest decimal `a * 10 ^ p` that rounds to a positive
rank. -/
def decimal (rank : Nat) : Nat × Int :=
  let i := interval rank
  let k := i.point
  let onDigits (n : Nat) : Option (Nat × Int) := (i.onGrid (k - n)).map fun a => (a, k - n)
  let (a, p) := ((List.range' 1 17).findSome? onDigits).getD (0, 0)
  dropZeros a p

end GraphStore.Shortest
