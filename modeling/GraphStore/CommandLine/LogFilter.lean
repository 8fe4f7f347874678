import GraphStore.Pattern.Support
import GraphStore.Text.Cut

/-!
# Log filters

A log filter is a list of directives separated by commas.  A directive is a level, a target, or
a target with a level after an equals sign; between them brackets may name a span and, in
braces, a field with a value: `target[span{field=value}]=level`.

`LogFilter.check` says whether a text is a log filter.  The parts of a directive are found in
the text without blank margins, by places in bytes, and cut out of the text as it stands.  So
blanks in front shift the parts, and a cut may fall inside a blank of more than one byte.
-/

namespace GraphStore.LogFilter

/-- Why a text is no log filter. -/
inductive Fault where
  | malformed
  /-- A part of it begins or ends inside a character. -/
  | brokenCharacter
  deriving DecidableEq

/-! ### Levels and fields -/

/-- The text with ASCII letters in lower case. -/
def lower (cs : List Char) : String := String.ofList (cs.map Char.toLower)

/-- The text names a level: a word in either case, or a number from zero to five. -/
def isLevel (cs : List Char) : Bool :=
  ["off", "error", "warn", "info", "debug", "trace"].contains (lower cs) ||
  (let digits := match cs with
    | '+' :: ds => ds
    | ds => ds
  !digits.isEmpty && digits.all Char.isDigit &&
    digits.foldl (fun n d => n * 10 + (d.toNat - '0'.toNat)) 0 ≤ 5)

/-- The text without a sign in front. -/
def unsigned : List Char → List Char
  | '+' :: cs => cs
  | '-' :: cs => cs
  | cs => cs

/-- The text is empty or an exponent of ten. -/
def isExponent : List Char → Bool
  | [] => true
  | c :: cs => (c = 'e' || c = 'E') && !(unsigned cs).isEmpty && (unsigned cs).all Char.isDigit

/-- The text is a number: an optional sign and infinity, no number, or digits with an optional
point and exponent. -/
def isNumber (cs : List Char) : Bool :=
  ["inf", "infinity", "nan"].contains (lower (unsigned cs)) ||
  (let whole := (unsigned cs).takeWhile Char.isDigit
  let rest := (unsigned cs).dropWhile Char.isDigit
  let (fraction, rest) := match rest with
    | '.' :: rest => (rest.takeWhile Char.isDigit, rest.dropWhile Char.isDigit)
    | rest => ([], rest)
  !(whole.isEmpty && fraction.isEmpty) && isExponent rest)

/-- The text is the value of a field: a number, or a pattern, as truth values are too. -/
def isValue (cs : List Char) : Bool := isNumber cs || Pattern.isValid cs

/-- The text is a field: a name, or a name and a value with an equals sign between them.  What
follows a second equals sign does not count. -/
def isField (cs : List Char) : Bool :=
  !cs.isEmpty &&
    match cs.dropWhile (· ≠ '=') with
    | _ :: value => isValue (value.takeWhile (· ≠ '='))
    | [] => true

/-! ### Directives -/

/-- Where the reading of a directive stands. -/
inductive Stage where
  | start
  | word
  /-- In the name of a span that began at a place. -/
  | span (start : Nat)
  /-- In a field that began at a place. -/
  | field (start : Nat)
  | fields
  | target
  | level (start : Nat)

/-- The character may start a directive. -/
def isStart (c : Char) : Bool := c = '-' || c = ':' || c = '_' || Text.isAlphanumeric c

/-- The text between two places. -/
def part (start stop : Nat) (text : List Char) : Except Fault (List Char) :=
  match Text.between? start stop text with
  | some cs => .ok cs
  | none => .error .brokenCharacter

/-- What holds of a part, or else the text is malformed. -/
def require (b : Bool) : Except Fault Unit := if b then .ok () else .error .malformed

/-- One character of a directive, at a place.  A part is cut out of the text where it ends. -/
def step (text : List Char) (place : Nat) (c : Char) : Stage → Except Fault Stage
  | .start => do
    if c = '[' then return .span (place + 1)
    require (isStart c)
    return .word
  | .word => do
    if c = '=' || c = '[' then
      let _ ← part 0 place text
      return if c = '=' then .level (place + 1) else .span (place + 1)
    return .word
  | .span start => do
    if c = ']' || c = '\x7b' then
      let _ ← part start place text
      return if c = ']' then .target else .field (place + 1)
    return .span start
  | .field start => do
    if c = '\x7d' then
      require (isField (← part start place text))
      return .fields
    return .field start
  | .fields => do
    require (c = ']')
    return .target
  | .target => do
    require (c = '=')
    return .level (place + 1)
  | .level start => .ok (.level start)

/-- Read the rest of a directive from a place on. -/
def stages (text : List Char) : Nat → Stage → List Char → Except Fault Stage
  | _, stage, [] => .ok stage
  | place, stage, c :: cs => do stages text (place + c.utf8Size) (← step text place c stage) cs

/-- Whether a text is a directive. -/
def checkDirective (text : List Char) : Except Fault Unit := do
  match ← stages text 0 .start (Text.trim text) with
  | .word => return
  | .target => return
  | .level start =>
    -- the place was counted in the trimmed text, but the cut is made in the text as it came
    match Text.cutAt? start text with
    | some (_, level) => require (level.isEmpty || isLevel level)
    | none => throw .brokenCharacter
  | _ => throw .malformed

/-! ### Filters -/

/-- The parts of a text between commas. -/
def parts : List Char → List (List Char)
  | [] => [[]]
  | c :: cs =>
    if c = ',' then [] :: parts cs
    else match parts cs with
      | part :: rest => (c :: part) :: rest
      | [] => [[c]]

/-- The first fault in directives, one after another. -/
def checkAll : List (List Char) → Except Fault Unit
  | [] => .ok ()
  | text :: texts => do
    checkDirective text
    checkAll texts

/-- Whether a text is a log filter.  Empty directives are passed over. -/
def check (s : String) : Except Fault Unit :=
  checkAll ((parts s.toList).filter fun text => !text.isEmpty)

end GraphStore.LogFilter
