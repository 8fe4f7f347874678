import GraphStore.Decimal.Literal
import GraphStore.Json.Token
import GraphStore.Toml.Basic

/-!
# Words of settings documents

Numbers, truth values, dates and times are words without spaces.  Digits may be parted by single
underscores; whole numbers have 64 bits and may be written in base two, eight or sixteen.
-/

namespace GraphStore.Toml

/-- Digits of a base, parted by single underscores, as numbers. -/
def digitsIn? (value? : Char → Option Nat) : List Char → Option (List Nat)
  | [] => none
  | [c] => (value? c).map ([·])
  | '_' :: _ => none
  | c :: '_' :: rest => do
    let d ← value? c
    return d :: (← digitsIn? value? rest)
  | c :: rest => do
    let d ← value? c
    return d :: (← digitsIn? value? rest)

/-- The value of a digit below a base. -/
def digitBelow? (base : Nat) (c : Char) : Option Nat :=
  (Json.hexValue? c).filter (· < base)

/-- Decimal digits, parted by single underscores. -/
def decimals? : List Char → Option (List Nat) := digitsIn? (digitBelow? 10)

/-- The number that digits of a base write. -/
def numeralIn (base : Nat) (digits : List Nat) : Nat := digits.foldl (fun n d => n * base + d) 0

/-- A sign in front of a word, and the rest. -/
def signOf : List Char → Bool × List Char
  | '-' :: cs => (true, cs)
  | '+' :: cs => (false, cs)
  | cs => (false, cs)

/-- Decimal digits of a whole number: no zero in front of others. -/
def wholeDigits? (cs : List Char) : Option (List Nat) :=
  (decimals? cs).filter fun ds => ds.length == 1 || ds.head? != some 0

/-- An integer of 64 bits. -/
def bounded? (n : Int) : Option Toml :=
  if fitsSigned n then some (integer n) else none

/-- A whole number. -/
def integer? : List Char → Option Toml
  | '0' :: 'x' :: cs => (digitsIn? (digitBelow? 16) cs).bind fun ds => bounded? (numeralIn 16 ds)
  | '0' :: 'o' :: cs => (digitsIn? (digitBelow? 8) cs).bind fun ds => bounded? (numeralIn 8 ds)
  | '0' :: 'b' :: cs => (digitsIn? (digitBelow? 2) cs).bind fun ds => bounded? (numeralIn 2 ds)
  | cs =>
    let (negative, cs) := signOf cs
    (wholeDigits? cs).bind fun ds =>
      let n : Int := numeralIn 10 ds
      bounded? (if negative then -n else n)

/-- The rank of the double nearest to `digits * 10 ^ e`.  Orders of magnitude that no double has
are told by the number of digits. -/
def nearestDecimal (digits : List Nat) (e : Int) : Nat :=
  let digits := digits.dropWhile (· == 0)
  let n := numeralIn 10 digits
  let order := (digits.length : Int) + e
  if n = 0 || order < -330 then 0
  else if 310 < order then Double.rankLimit
  else if 0 ≤ e then Double.nearest (n * tenPow e.toNat) 1
  else Double.nearest n (tenPow (-e).toNat)

/-- A number with a fraction or an exponent.  One that is too large is no number, unless it is
negative. -/
def float? (word : List Char) : Option Toml := do
  let (negative, cs) := signOf word
  if cs = "inf".toList || cs = "nan".toList then return float none
  let isMark (c : Char) : Bool := c = 'e' || c = 'E'
  let mantissa := cs.takeWhile fun c => !isMark c
  let whole ← wholeDigits? (mantissa.takeWhile (· ≠ '.'))
  let places ← match mantissa.dropWhile (· ≠ '.') with
    | [] => some []
    | _ :: ds => decimals? ds
  let exponent ← match cs.dropWhile fun c => !isMark c with
    | [] => if mantissa.contains '.' then some 0 else none
    | _ :: ds =>
      let (down, ds) := signOf ds
      (decimals? ds).map fun ds =>
        let n : Int := numeralIn 10 ds
        if down then -n else n
  let rank := nearestDecimal (whole ++ places) (exponent - places.length)
  if rank < Double.rankLimit then return float (some ⟨negative, rank⟩)
  else if negative then return float none
  else none

/-! ### Dates and times -/

/-- Exactly `n` decimal digits as a number, and the rest. -/
def fixedDigits? (n : Nat) (cs : List Char) : Option (Nat × List Char) :=
  let ds := cs.take n
  if ds.length = n && ds.all Char.isDigit then
    some (numeralIn 10 (ds.map Json.digitValue), cs.drop n)
  else none

def expect? (c : Char) : List Char → Option (List Char)
  | [] => none
  | d :: cs => if c = d then some cs else none

/-- The number of days of a month. -/
def daysIn (year month : Nat) : Nat :=
  if month = 2 then
    if year % 4 = 0 && (year % 100 ≠ 0 || year % 400 = 0) then 29 else 28
  else if month = 4 || month = 6 || month = 9 || month = 11 then 30
  else 31

/-- A date at the start of a word, and the rest. -/
def date? (cs : List Char) : Option (List Char) := do
  let (year, cs) ← fixedDigits? 4 cs
  let (month, cs) ← fixedDigits? 2 (← expect? '-' cs)
  let (day, cs) ← fixedDigits? 2 (← expect? '-' cs)
  if 1 ≤ month && month ≤ 12 && 1 ≤ day && day ≤ daysIn year month then some cs else none

/-- A time at the start of a word, and the rest.  A minute may have a leap second. -/
def time? (cs : List Char) : Option (List Char) := do
  let (hour, cs) ← fixedDigits? 2 cs
  let (minute, cs) ← fixedDigits? 2 (← expect? ':' cs)
  let (second, cs) ← fixedDigits? 2 (← expect? ':' cs)
  if 23 < hour || 59 < minute || 60 < second then none
  else match cs with
    | '.' :: ds => if (ds.takeWhile Char.isDigit).isEmpty then none else
        some (ds.dropWhile Char.isDigit)
    | cs => some cs

/-- An offset from universal time, or nothing, up to the end of a word. -/
def isOffset : List Char → Bool
  | [] => true
  | ['Z'] => true
  | ['z'] => true
  | c :: cs =>
    (c = '+' || c = '-') && ((do
      let (hour, cs) ← fixedDigits? 2 cs
      let (minute, cs) ← fixedDigits? 2 (← expect? ':' cs)
      return hour ≤ 23 && minute ≤ 59 && cs.isEmpty) == some true)

/-- The word is a date, a time or both. -/
def isDateTime (word : List Char) : Bool :=
  match date? word with
  | some [] => true
  | some (c :: cs) => (c = 'T' || c = 't' || c = ' ') && ((time? cs).map isOffset == some true)
  | none => time? word == some []

/-- The value of a word. -/
def word? (cs : List Char) : Option Toml :=
  if cs = "true".toList then some (boolean true)
  else if cs = "false".toList then some (boolean false)
  else if isDateTime cs then some dateTime
  else (float? cs).or (integer? cs)

end GraphStore.Toml
