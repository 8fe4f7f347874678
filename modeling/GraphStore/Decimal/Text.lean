import GraphStore.Decimal.Literal
import GraphStore.Decimal.Shortest

/-!
# Numbers as text

Integers are written in decimal.  A double is written by the fewest digits that read back the
same: in positions, with at least one digit on each side of the point, while its first digit
stands between the fifth place after the point and the sixteenth before it, and with a signed
power of ten otherwise.
-/

namespace GraphStore

def decimalDigits (n : Nat) : List Char := Nat.toDigits 10 n

namespace Double

/-- How far right of its first digit, and how far left, the point may stand in positions. -/
def positional (point : Int) : Bool := -4 ≤ point && point ≤ 16

/-- The digits `0.d₁d₂… * 10 ^ point` in positions. -/
def inPositions (digits : List Char) (point : Int) : List Char :=
  if point ≤ 0 then ['0', '.'] ++ List.replicate (-point).toNat '0' ++ digits
  else
    let n := point.toNat
    if digits.length ≤ n then digits ++ List.replicate (n - digits.length) '0' ++ ['.', '0']
    else digits.take n ++ ['.'] ++ digits.drop n

/-- The digits `0.d₁d₂… * 10 ^ point` with a power of ten. -/
def withPower (digits : List Char) (point : Int) : List Char :=
  let power := point - 1
  let head := match digits with
    | d :: e :: rest => d :: '.' :: e :: rest
    | short => short
  head ++ ['e', if power < 0 then '-' else '+'] ++ decimalDigits power.natAbs

def text (x : Double) : List Char :=
  let (a, p) := Shortest.decimal x.rank
  let digits := decimalDigits a
  let point := digits.length + p
  let magnitude :=
    if x.rank = 0 then ['0', '.', '0']
    else if positional point then inPositions digits point
    else withPower digits point
  if x.negative then '-' :: magnitude else magnitude

end Double

def integerText (n : Int) : List Char :=
  if n < 0 then '-' :: decimalDigits n.natAbs else decimalDigits n.natAbs

def Number.text : Number → List Char
  | .integer n => integerText n
  | .double x => x.text

end GraphStore
