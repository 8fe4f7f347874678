/-!
# Powers and integers of 64 bits

* `twoPow` and `tenPow` are the powers of two and ten;
* `fitsSigned` and `fitsUnsigned` bound the integers that 64 bits hold.
-/

namespace GraphStore

def twoPow (n : Nat) : Nat := Nat.pow 2 n

def tenPow (n : Nat) : Nat := Nat.pow 10 n

/-- The integer fits 64 bits with a sign. -/
def fitsSigned (n : Int) : Bool := -9223372036854775808 ≤ n && n ≤ 9223372036854775807

/-- The integer fits 64 bits without a sign. -/
def fitsUnsigned (n : Int) : Bool := 0 ≤ n && n ≤ 18446744073709551615

end GraphStore
