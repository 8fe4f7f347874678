import GraphStore.Decimal.Double

/-!
# Reading decimal literals

A literal is a sign, whole digits, digits after a point and a power of ten.  Its digits are
gathered into a 64-bit number as long as they fit, later digits only count as places, and the
number is then multiplied or divided by the power of ten in double-precision arithmetic.  A
literal without point and exponent whose digits fit is an integer.
-/

namespace GraphStore

/-- A number as it is written. -/
structure Literal where
  negative : Bool
  whole : List Nat
  /-- The digits after the point; `none` without a point. -/
  places : Option (List Nat)
  /-- Whether the exponent is negative, and its digits; `none` without an exponent. -/
  exponent : Option (Bool × List Nat)

/-- A number that a literal stands for. -/
inductive Number where
  /-- An integer from `-2 ^ 63` to `2 ^ 64 - 1`. -/
  | integer (value : Int)
  | double (value : Double)
  deriving DecidableEq

namespace Number

/-- Equality of numbers: an integer never equals a double. -/
def same : Number → Number → Bool
  | .integer a, .integer b => a == b
  | .double a, .double b => a.same b
  | _, _ => false

theorem same_refl (n : Number) : same n n = true := by
  cases n <;> simp [same, Double.same_refl]

end Number

namespace Literal

/-- Gather digits into a 64-bit number; the digits from the first that does not fit are left. -/
def gather (total : Nat) : List Nat → Nat × List Nat
  | [] => (total, [])
  | d :: rest =>
    if fitsUnsigned (total * 10 + d : Nat) then gather (total * 10 + d) rest else (total, d :: rest)

/-- Digits as a number. -/
def numeral (digits : List Nat) : Nat := digits.foldl (fun n d => n * 10 + d) 0

/-- A rank divided by `10 ^ n`, by at most `10 ^ 308` at a time. -/
def shrink (rank n : Nat) : Nat :=
  if n ≤ 308 then Double.quotient rank (Double.powerOfTen n)
  else if rank = 0 then 0
  else shrink (Double.quotient rank (Double.powerOfTen 308)) (n - 308)
termination_by n

/-- `total * 10 ^ e` as a rank; `none` when it is too large. -/
def scale (total : Nat) (e : Int) : Option Nat :=
  let rank := Double.nearest total 1
  if e < 0 then some (shrink rank (-e).toNat)
  else if rank = 0 then some 0
  else if 308 < e then none
  else
    let product := Double.product rank (Double.powerOfTen e.toNat)
    if product < Double.rankLimit then some product else none

/-- The exponents that still count: larger ones make any number zero or too large. -/
def exponentLimit : Nat := 2147483648

/-- The rank of the literal's magnitude as a double; `none` when it is too large. -/
def rank? (l : Literal) : Option Nat :=
  let (total, dropped) := gather 0 l.whole
  let places := l.places.getD []
  let (total, unread) := gather total places
  -- a dropped digit counts as a place, and a digit read after the point takes one back
  let start : Int := (dropped.length : Int) - ((places.length - unread.length : Nat) : Int)
  match l.exponent with
  | none => scale total start
  | some (down, digits) =>
    let n := numeral digits
    if exponentLimit ≤ n then (if total ≠ 0 && !down then none else some 0)
    else scale total (if down then start - n else start + n)

/-- The integer that the literal is, if it is one. -/
def integer? (l : Literal) : Option Int :=
  match l.places, l.exponent, gather 0 l.whole with
  | none, none, (total, []) =>
    if !l.negative then some total
    -- minus zero is a double
    else if 0 < total && fitsSigned (-(total : Int)) then some (-(total : Int))
    else none
  | _, _, _ => none

/-- The value of the literal; `none` when it is too large for a double. -/
def value? (l : Literal) : Option Number :=
  match l.integer? with
  | some n => some (.integer n)
  | none => l.rank?.map fun r => .double ⟨l.negative, r⟩

end Literal

end GraphStore
