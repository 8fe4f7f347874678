import GraphStore.Json.Basic

/-!
# Tokens of JSON text

A scanner reads JSON text one character at a time.  It refuses raw controls inside strings,
unknown escapes, surrogates that do not form a pair, unknown words, numbers with superfluous
zeros or missing digits, and numbers too large for a double.
-/

namespace GraphStore.Json

/-- A token of JSON text. -/
inductive Token where
  | openArray
  | closeArray
  | openObject
  | closeObject
  | comma
  | colon
  | scalar (value : Json)

/-! ### Numbers -/

/-- The value of a decimal digit. -/
def digitValue (c : Char) : Nat := c.toNat - '0'.toNat

/-- The digits at the start of a text, and what follows them. -/
def digitsOf (cs : List Char) : List Nat × List Char :=
  ((cs.takeWhile Char.isDigit).map digitValue, cs.dropWhile Char.isDigit)

/-- The exponent that a text is, if it is one: a mark, a sign or none, and digits. -/
def exponentOf? : List Char → Option (Option (Bool × List Nat))
  | [] => some none
  | c :: cs =>
    if c = 'e' || c = 'E' then
      let (down, cs) := match cs with
        | '-' :: rest => (true, rest)
        | '+' :: rest => (false, rest)
        | rest => (false, rest)
      match digitsOf cs with
      | (d :: ds, []) => some (some (down, d :: ds))
      | _ => none
    else none

/-- The literal that a text is, if it is one. -/
def literalOf? (cs : List Char) : Option Literal :=
  let (negative, cs) := match cs with
    | '-' :: rest => (true, rest)
    | rest => (false, rest)
  match digitsOf cs with
  | ([], _) => none
  | (0 :: _ :: _, _) => none
  | (whole, '.' :: cs) =>
    match digitsOf cs with
    | ([], _) => none
    | (places, cs) => (exponentOf? cs).map fun e => ⟨negative, whole, some places, e⟩
  | (whole, cs) => (exponentOf? cs).map fun e => ⟨negative, whole, none, e⟩

/-- The value that a word stands for. -/
def wordValue? (cs : List Char) : Option Json :=
  if cs = "null".toList then some null
  else if cs = "true".toList then some (bool true)
  else if cs = "false".toList then some (bool false)
  else do return num (← (← literalOf? cs).value?)

/-! ### The scanner -/

/-- Where the scanner stands.  Characters already read are held last first. -/
inductive Scan where
  | between
  | word (read : List Char)
  | inside (read : List Char)
  | escape (read : List Char)
  /-- Inside a code unit, with its digits so far; `high` is the surrogate that it completes. -/
  | unit (read : List Char) (high : Option Nat) (digits : List Nat)
  | paired (read : List Char) (high : Nat)
  | pairedEscape (read : List Char) (high : Nat)

/-- The value of a hexadecimal digit. -/
def hexValue? (c : Char) : Option Nat :=
  if c.isDigit then some (digitValue c)
  else if 'a' ≤ c && c ≤ 'f' then some (c.toNat - 'a'.toNat + 10)
  else if 'A' ≤ c && c ≤ 'F' then some (c.toNat - 'A'.toNat + 10)
  else none

/-- White space between tokens. -/
def isSpace (c : Char) : Bool := c = ' ' || c = '\t' || c = '\n' || c = '\r'

/-- The character may stand in a word or a number. -/
def isWordChar (c : Char) : Bool := c.isAlphanum || c = '+' || c = '-' || c = '.'

/-- The token of a punctuation mark. -/
def punctuation? : Char → Option Token
  | '[' => some .openArray
  | ']' => some .closeArray
  | '\x7b' => some .openObject
  | '\x7d' => some .closeObject
  | ',' => some .comma
  | ':' => some .colon
  | _ => none

/-- The character that a simple escape stands for. -/
def simpleEscape? : Char → Option Char
  | '"' => some '"'
  | '\\' => some '\\'
  | '/' => some '/'
  | 'b' => some '\x08'
  | 'f' => some '\x0c'
  | 'n' => some '\n'
  | 'r' => some '\r'
  | 't' => some '\t'
  | _ => none

/-- The scanner after a complete code unit. -/
def afterUnit (read : List Char) (high : Option Nat) (code : Nat) : Option Scan :=
  let isLow := 0xDC00 ≤ code && code ≤ 0xDFFF
  match high with
  | some h =>
    if isLow then
      some (.inside (Char.ofNat (0x10000 + (h - 0xD800) * 0x400 + (code - 0xDC00)) :: read))
    else none
  | none =>
    -- the second half of a pair is no character without the first
    if isLow then none
    else if 0xD800 ≤ code && code ≤ 0xDBFF then some (.paired read code)
    else some (.inside (Char.ofNat code :: read))

/-- A character between tokens: the scanner after it and the token that it is, if any. -/
def stepBetween (c : Char) : Option (Scan × Option Token) :=
  if isSpace c then some (.between, none)
  else if c = '"' then some (.inside [], none)
  else if isWordChar c then some (.word [c], none)
  else (punctuation? c).map fun t => (.between, some t)

/-- One character: the scanner after it and the tokens that it completes. -/
def step : Scan → Char → Option (Scan × List Token)
  | .between, c => do
    let (scan, token) ← stepBetween c
    return (scan, token.toList)
  -- the character that ends a word may be a token of its own
  | .word read, c =>
    if isWordChar c then some (.word (c :: read), [])
    else do
      let value ← wordValue? read.reverse
      let (scan, token) ← stepBetween c
      return (scan, .scalar value :: token.toList)
  | .inside read, c =>
    if c = '"' then some (.between, [.scalar (str (String.ofList read.reverse))])
    else if c = '\\' then some (.escape read, [])
    else if c.toNat < 0x20 then none
    else some (.inside (c :: read), [])
  | .escape read, c =>
    if c = 'u' then some (.unit read none [], [])
    else (simpleEscape? c).map fun e => (.inside (e :: read), [])
  | .unit read high digits, c => do
    let digits := digits ++ [← hexValue? c]
    if digits.length < 4 then return (.unit read high digits, [])
    else return (← afterUnit read high (digits.foldl (fun n d => n * 16 + d) 0), [])
  | .paired read high, c => if c = '\\' then some (.pairedEscape read high, []) else none
  | .pairedEscape read high, c => if c = 'u' then some (.unit read (some high) [], []) else none

/-- The tokens of a text that starts where the scanner stands. -/
def tokensFrom : Scan → List Char → Option (List Token)
  | .between, [] => some []
  | .word read, [] => do return [.scalar (← wordValue? read.reverse)]
  | _, [] => none
  | scan, c :: cs => do
    let (scan, tokens) ← step scan c
    return tokens ++ (← tokensFrom scan cs)

/-- The tokens of a text. -/
def tokens? (cs : List Char) : Option (List Token) := tokensFrom .between cs

end GraphStore.Json
