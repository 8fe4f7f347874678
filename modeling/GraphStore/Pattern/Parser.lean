import GraphStore.Json.Token
import GraphStore.Pattern.Basic
import GraphStore.Text.Alphanumeric
import GraphStore.Text.Blank

/-!
# Reading patterns

`Pattern.parse?` gives the pattern that a text writes, or nothing when it writes none.

Forms with an opening brace (counted repetitions, character numbers and properties in braces)
are never complete, since the fields of a log filter that hold patterns end at the first closing
brace.  So an opening brace stands only in a set or after a backslash.  Properties of characters
and references to groups are not part of the language.
-/

namespace GraphStore

namespace Pattern

/-! ### Blanks and comments -/

/-- The text after blanks and comments; `inComment` says whether a comment is open. -/
def afterGap (inComment : Bool) : List Char → List Char
  | [] => []
  | c :: cs =>
    if inComment then afterGap (c ≠ '\n') cs
    else if Text.isBlank c then afterGap false cs
    else if c = '#' then afterGap true cs
    else c :: cs

/-- The text after what does not count in front of it. -/
def skip (verbose : Bool) (cs : List Char) : List Char :=
  if verbose then afterGap false cs else cs

/-- The character that decides whether a hyphen in front of the text is one of a range.  The
mark of a comment is passed over, but not the comment. -/
def decisive? (verbose : Bool) (cs : List Char) : Option Char :=
  if verbose then
    match cs.dropWhile Text.isBlank with
    | '#' :: cs => (cs.dropWhile Text.isBlank).head?
    | cs => cs.head?
  else cs.head?

/-! ### Escapes -/

/-- The number that so many more hexadecimal digits write, after the value of those before, and
the text after it. -/
def hexNumber? (verbose : Bool) : Nat → Nat → List Char → Option (Nat × List Char)
  | 0, value, cs => some (value, cs)
  | _ + 1, _, [] => none
  | n + 1, value, c :: cs => do
    hexNumber? verbose n (value * 16 + (← Json.hexValue? c)) (skip verbose cs)

/-- The character that so many hexadecimal digits number, and the text after them. -/
def numbered? (verbose : Bool) (digits : Nat) (cs : List Char) : Option (Atom × List Char) := do
  let (n, rest) ← hexNumber? verbose digits 0 (skip verbose cs)
  if n < 0xD800 || (0xDFFF < n && n < 0x110000) then
    some (.literal ⟨Char.ofNat n, digits = 2⟩, rest)
  else none

/-- The character that a letter after a backslash stands for. -/
def control? : Char → Option Char
  | 'a' => some '\x07'
  | 'f' => some '\x0c'
  | 'n' => some '\n'
  | 'r' => some '\r'
  | 't' => some '\t'
  | 'v' => some '\x0b'
  | _ => none

/-- The character stands for itself after a backslash. -/
def isEscapable (c : Char) : Bool :=
  c.toNat < 0x80 && !c.isAlphanum && c ≠ '<' && c ≠ '>'

/-- What a backslash and the text after it stand for, and the text after that. -/
def escape? (verbose : Bool) : List Char → Option (Atom × List Char)
  | [] => none
  | 'x' :: cs => numbered? verbose 2 cs
  | 'u' :: cs => numbered? verbose 4 cs
  | 'U' :: cs => numbered? verbose 8 cs
  | c :: cs =>
    if c = 'd' || c = 's' || c = 'w' then some (.shorthand false, cs)
    else if c = 'D' || c = 'S' || c = 'W' then some (.shorthand true, cs)
    else if c = 'A' || c = 'z' then some (.assertion .edge, cs)
    else if c = 'b' || c = 'B' || c = '<' || c = '>' then some (.assertion .wordBoundary, cs)
    else if isEscapable c then some (.literal ⟨c, false⟩, cs)
    else (control? c).map fun c => (.literal ⟨c, false⟩, cs)

/-! ### Sets -/

/-- How far the beginning of a bracket has been read. -/
inductive Opening where
  /-- Not at all. -/
  | bracket
  /-- Up to hyphens. -/
  | hyphens
  /-- As a whole. -/
  | complete
  deriving DecidableEq

/-- A bracket that is open. -/
structure Bracket where
  opening : Opening
  negated : Bool
  /-- The left side of an operation, and the operation. -/
  pending : Option (SetOperator × CharSet)
  /-- The parts since then, the last one first. -/
  parts : List CharSet

namespace Bracket

/-- A bracket of which nothing has been read. -/
def new : Bracket := ⟨.bracket, false, none, []⟩

def add (b : Bracket) (s : CharSet) : Bracket :=
  { b with opening := .complete, parts := s :: b.parts }

/-- The set so far. -/
def inside (b : Bracket) : CharSet :=
  match b.pending with
  | none => .ofParts b.parts
  | some (op, left) => .combined op left (.ofParts b.parts)

/-- Begin the right side of an operation. -/
def operate (b : Bracket) (op : SetOperator) : Bracket :=
  ⟨.complete, b.negated, some (op, b.inside), []⟩

/-- The set when the bracket is closed. -/
def close (b : Bracket) : CharSet := .bracket b.negated b.inside

end Bracket

/-- The names of sets. -/
def setNames : List String :=
  ["alnum", "alpha", "ascii", "blank", "cntrl", "digit", "graph", "lower", "print", "punct",
    "space", "upper", "word", "xdigit"]

/-- A set with a name, after its opening bracket, and the text after it. -/
def namedSet? : List Char → Option (CharSet × List Char)
  | ':' :: cs =>
    let (negated, cs) := match cs with
      | '^' :: cs => (true, cs)
      | cs => (false, cs)
    let name := String.ofList (cs.takeWhile (· ≠ ':'))
    match cs.dropWhile (· ≠ ':') with
    | ':' :: ']' :: rest =>
      if setNames.contains name then some (.named name negated, rest) else none
    | _ => none
  | _ => none

/-- A part of a set that an atom makes. -/
def Atom.set? : Atom → Option CharSet
  | .literal l => some (.literal l)
  | .shorthand negated => some (.shorthand negated)
  | _ => none

/-- An atom of a set, and the text after it. -/
def setAtom? (verbose : Bool) : List Char → Option (Atom × List Char)
  | [] => none
  | '\\' :: cs => escape? verbose cs
  | c :: cs => some (.literal ⟨c, false⟩, cs)

/-- A range or a single atom of a set, and the text after it. -/
def setPart? (verbose : Bool) (cs : List Char) : Option (CharSet × List Char) := do
  let (first, rest) ← setAtom? verbose cs
  match skip verbose rest with
  | '-' :: cs =>
    let next := decisive? verbose cs
    if next = some ']' || next = some '-' then return (← first.set?, '-' :: cs)
    let (last, rest) ← setAtom? verbose (skip verbose cs)
    match first, last with
    | .literal a, .literal b => if a.char ≤ b.char then some (.range a b, rest) else none
    | _, _ => none
  | rest => return (← first.set?, rest)

/-- What reading on in a set comes to. -/
inductive SetProgress where
  | within (b : Bracket) (outer : List Bracket)
  | done (s : CharSet)

/-- Read on in a bracket by a part, an operator or a bracket, from its first character on. -/
def Bracket.step (verbose : Bool) (b : Bracket) (outer : List Bracket) (c : Char)
    (cs : List Char) : Option (SetProgress × List Char) :=
  if c = '^' && b.opening = .bracket then
    some (.within { b with opening := .hyphens, negated := true } outer, cs)
  -- in front, a hyphen and a closing bracket stand for themselves
  else if c = '-' && b.opening ≠ .complete then
    some (.within { b.add (.literal ⟨c, false⟩) with opening := .hyphens } outer, cs)
  else if c = ']' && b.opening ≠ .complete && b.parts.isEmpty then
    some (.within (b.add (.literal ⟨c, false⟩)) outer, cs)
  else match c, cs with
    | '[', cs =>
      match namedSet? cs with
      | some (s, rest) => some (.within (b.add s) outer, rest)
      | none => some (.within .new ({ b with opening := .complete } :: outer), cs)
    | ']', cs =>
      match outer with
      | [] => some (.done b.close, cs)
      | b' :: outer => some (.within (b'.add b.close) outer, cs)
    | '&', '&' :: cs => some (.within (b.operate .intersection) outer, cs)
    | '-', '-' :: cs => some (.within (b.operate .difference) outer, cs)
    | '~', '~' :: cs => some (.within (b.operate .symmetricDifference) outer, cs)
    | c, cs => (setPart? verbose (c :: cs)).map fun (s, rest) => (.within (b.add s) outer, rest)

/-- A set within open brackets, in at most so many steps, and the text after it. -/
def set? (verbose : Bool) :
    Nat → Bracket → List Bracket → List Char → Option (CharSet × List Char)
  | 0, _, _, _ => none
  | steps + 1, b, outer, cs =>
    match skip verbose cs with
    | [] => none
    | c :: cs => do
      match ← b.step verbose outer c cs with
      | (.within b outer, rest) => set? verbose steps b outer rest
      | (.done s, rest) => some (s, rest)

/-! ### Groups -/

/-- The mode that a letter names. -/
def Mode.ofLetter? : Char → Option Mode
  | 'i' => some .ignoreCase
  | 'm' => some .multiLine
  | 's' => some .dotAll
  | 'U' => some .lazy
  | 'u' => some .unicode
  | 'R' => some .crlf
  | 'x' => some .verbose
  | _ => none

/-- The letters of a switch after those read, and the text from the character after them on;
`off` says whether a hyphen is among those read, `afterHyphen` whether it is the last one.  Each
letter and the hyphen may stand once, and letters follow the hyphen. -/
def switch? (s : Switch) (off afterHyphen : Bool) : List Char → Option (Switch × List Char)
  | [] => none
  | c :: cs =>
    if c = ':' || c = ')' then (if afterHyphen then none else some (s, c :: cs))
    else if c = '-' then (if off then none else switch? s true true cs)
    else do
      let m ← Mode.ofLetter? c
      if (s.setting? m).isSome then none else switch? ((m, !off) :: s) off false cs

/-- The text may name a group. -/
def isGroupName : List Char → Bool
  | [] => false
  | c :: cs =>
    (c = '_' || Text.isAlphabetic c) &&
      cs.all fun c => c = '_' || c = '.' || c = '[' || c = ']' || Text.isAlphanumeric c

/-- The name of a group, and the text after its closing angle bracket. -/
def groupName? (cs : List Char) : Option (String × List Char) :=
  let name := cs.takeWhile (· ≠ '>')
  match cs.dropWhile (· ≠ '>') with
  | _ :: rest => if isGroupName name then some (String.ofList name, rest) else none
  | [] => none

/-- What an opening parenthesis begins. -/
inductive Parenthesis where
  /-- A switch, already closed. -/
  | switch (s : Switch)
  | group (s : Switch) (name : Option String)

/-- What an opening parenthesis in front of a text begins, and the text after that.  Nothing
looks around the place where a match stands. -/
def parenthesis? (cs : List Char) : Option (Parenthesis × List Char) :=
  match cs with
  | '?' :: '<' :: '=' :: _ => none
  | '?' :: '<' :: '!' :: _ => none
  | '?' :: 'P' :: '<' :: cs => (groupName? cs).map fun (name, rest) => (.group [] (some name), rest)
  | '?' :: '<' :: cs => (groupName? cs).map fun (name, rest) => (.group [] (some name), rest)
  | '?' :: cs =>
    match switch? [] false false cs with
    | some ([], ')' :: _) => none
    | some (s, ')' :: rest) => some (.switch s, rest)
    | some (s, _ :: rest) => some (.group s none, rest)
    | _ => none
  | cs => some (.group [] none, cs)

/-! ### Patterns -/

/-- A group that is open, and what stands in front of it. -/
structure Frame where
  switch : Switch
  /-- Blanks do not count outside. -/
  verbose : Bool
  /-- The finished alternatives, the last one first. -/
  branches : List Pattern
  /-- The items of the alternative after them, the last one first. -/
  items : List Pattern

/-- What has been read of a pattern. -/
structure Reading where
  verbose : Bool
  names : List String
  branches : List Pattern
  items : List Pattern
  outer : List Frame

namespace Reading

/-- Nothing has been read. -/
def new : Reading := ⟨false, [], [], [], []⟩

def add (r : Reading) (p : Pattern) : Reading := { r with items := p :: r.items }

/-- What the innermost group holds. -/
def inside (r : Reading) : Pattern := .ofBranches (.ofItems r.items :: r.branches)

/-- Follow a switch. -/
def follow (r : Reading) (s : Switch) : Reading :=
  { r with verbose := (s.setting? .verbose).getD r.verbose }

/-- Open a group.  No two groups have one name. -/
def openGroup? (r : Reading) (s : Switch) (name : Option String) : Option Reading :=
  if name.any r.names.contains then none
  else some ({ r with
    names := name.toList ++ r.names, branches := [], items := []
    outer := ⟨s, r.verbose, r.branches, r.items⟩ :: r.outer }.follow s)

/-- Close a group. -/
def closeGroup? (r : Reading) : Option Reading :=
  match r.outer with
  | [] => none
  | f :: outer =>
    some ⟨f.verbose, r.names, f.branches, .group f.switch r.inside :: f.items, outer⟩

/-- Repeat the last item.  A switch cannot be repeated. -/
def repeat? (r : Reading) : Option Reading :=
  match r.items with
  | [] => none
  | .switch _ :: _ => none
  | p :: ps => some { r with items := .repeated p :: ps }

/-- Read on by an item, from its first character on. -/
def step (r : Reading) (c : Char) (cs : List Char) : Option (Reading × List Char) :=
  match c with
  | '(' => do
    match ← parenthesis? (skip r.verbose cs) with
    | (.switch s, rest) => some ((r.add (.switch s)).follow s, rest)
    | (.group s name, rest) => (r.openGroup? s name).map fun r => (r, rest)
  | ')' => r.closeGroup?.map fun r => (r, cs)
  | '|' => some ({ r with branches := .ofItems r.items :: r.branches, items := [] }, cs)
  | '[' => (set? r.verbose (cs.length + 1) .new [] cs).map fun (s, rest) => (r.add (.oneOf s), rest)
  | '\x7b' => none
  | '\\' => (escape? r.verbose cs).map fun (a, rest) => (r.add (.atom a), rest)
  | '.' => some (r.add (.atom .anyChar), cs)
  | c =>
    if c = '?' || c = '*' || c = '+' then do
      let r ← r.repeat?
      match cs with
      | '?' :: cs => some (r, cs)
      | cs => some (r, cs)
    else if c = '^' || c = '$' then some (r.add (.atom (.assertion .edge)), cs)
    else some (r.add (.atom (.literal ⟨c, false⟩)), cs)

/-- Read a text to its end in at most so many steps. -/
def run : Nat → Reading → List Char → Option Reading
  | steps, r, cs =>
    match skip r.verbose cs, steps with
    | [], _ => some r
    | _ :: _, 0 => none
    | c :: cs, steps + 1 => do
      let (r, rest) ← r.step c cs
      run steps r rest

/-- The pattern, when no group is open. -/
def pattern? (r : Reading) : Option Pattern := if r.outer.isEmpty then some r.inside else none

end Reading

/-- The pattern that a text writes.  Each step uses up a character, so that the text bounds
their number. -/
def parse? (cs : List Char) : Option Pattern := do (← Reading.new.run cs.length cs).pattern?

end Pattern

end GraphStore
