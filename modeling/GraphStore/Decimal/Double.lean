import GraphStore.Decimal.Power

/-!
# Finite double-precision numbers

A finite double is a sign and the rank of its magnitude in the increasing list of non-negative
doubles: rank 0 is zero, rank 1 the least positive number, and the successor of a rank is the
next number up.  The rank is also the bit pattern of the magnitude.

* `Double.ratio` gives the exact value of a rank as a fraction;
* `Double.nearest` rounds a fraction to a rank, a tie going to the even one;
* `Double.product` and `Double.quotient` are the rounded product and quotient of ranks.
-/

namespace GraphStore

/-- A finite double-precision number. -/
structure Double where
  /-- The sign bit; zero has both signs. -/
  negative : Bool
  /-- The place of the magnitude among the non-negative doubles. -/
  rank : Nat
  deriving DecidableEq

namespace Double

/-- The first rank past the finite numbers. -/
def rankLimit : Nat := 0x7FF0000000000000

/-- The numbers are equal as numbers: the two zeros are. -/
def same (a b : Double) : Bool :=
  a.rank == b.rank && (a.negative == b.negative || a.rank == 0)

theorem same_refl (a : Double) : same a a = true := by simp [same]

/-- How many numbers there are from a power of two up to the next one: the power of two with
exponent 52. -/
def binade : Nat := 4503599627370496

/-- The integer `m` of the value `m * 2 ^ q` of a rank. -/
def significand (rank : Nat) : Nat :=
  if rank < binade then rank else binade + rank % binade

/-- The exponent `q` of the value `m * 2 ^ q` of a rank. -/
def exponent (rank : Nat) : Int :=
  if rank < binade then -1074 else ((rank / binade : Nat) : Int) - 1075

/-- The value of a rank as numerator and denominator. -/
def ratio (rank : Nat) : Nat × Nat :=
  let q := exponent rank
  if 0 ≤ q then (significand rank * twoPow q.toNat, 1) else (significand rank, twoPow (-q).toNat)

/-- The integer nearest to `num / den`, a tie going to the even one. -/
def roundDiv (num den : Nat) : Nat :=
  let quotient := num / den
  let twice := 2 * (num % den)
  if den < twice || (twice == den && quotient % 2 == 1) then quotient + 1 else quotient

/-- `num / den` divided by `2 ^ q`, as numerator and denominator. -/
def scaled (num den : Nat) (q : Int) : Nat × Nat :=
  if 0 ≤ q then (num, den * twoPow q.toNat) else (num * twoPow (-q).toNat, den)

/-- The rank nearest to `num / den`, a tie going to the even rank.  Ranks from `rankLimit` on
stand for numbers that are too large. -/
def nearest (num den : Nat) : Nat :=
  if num = 0 then 0
  else
    let guess : Int := (num.log2 : Int) - (den.log2 : Int) - 52
    let (n, d) := scaled num den guess
    let q := max (if n / d < binade then guess - 1 else guess) (-1074)
    let (n, d) := scaled num den q
    (q + 1074).toNat * binade + roundDiv n d

/-- The rank nearest to the product of two ranks. -/
def product (a b : Nat) : Nat :=
  nearest ((ratio a).1 * (ratio b).1) ((ratio a).2 * (ratio b).2)

/-- The rank nearest to the quotient of two ranks. -/
def quotient (a b : Nat) : Nat :=
  nearest ((ratio a).1 * (ratio b).2) ((ratio a).2 * (ratio b).1)

/-- The rank of the double nearest to `10 ^ n`. -/
def powerOfTen (n : Nat) : Nat := nearest (tenPow n) 1

end Double

end GraphStore
