import GraphStore.Toml.Scalar

/-!
# Reading settings documents

A document is read line by line: blank lines, comments, headers of tables and definitions.
`Toml.parse?` gives its table, or nothing when the text is no document.
-/

namespace GraphStore.Toml

/-! ### Lines -/

/-- The text after spaces and tabs. -/
def blanks (cs : List Char) : List Char := cs.dropWhile fun c => c = ' ' || c = '\t'

/-- The character may stand in a comment. -/
def isCommentChar (c : Char) : Bool :=
  c = '\t' || (0x20 ≤ c.toNat && c.toNat ≤ 0x7E) || 0x80 ≤ c.toNat

/-- The text after a line end. -/
def newline? : List Char → Option (List Char)
  | '\n' :: cs => some cs
  | '\r' :: '\n' :: cs => some cs
  | _ => none

/-- The text after the rest of a line that holds at most a comment. -/
def endOfLine? (cs : List Char) : Option (List Char) :=
  let cs := match blanks cs with
    | '#' :: cs => cs.dropWhile isCommentChar
    | cs => cs
  if cs.isEmpty then some [] else newline? cs

/-- The text after spaces, comments and line ends; `inComment` says whether a comment is open. -/
def gaps (inComment : Bool) : List Char → List Char
  | [] => []
  | '\r' :: '\n' :: cs => gaps false cs
  | c :: cs =>
    if c = '\n' then gaps false cs
    else if inComment then (if isCommentChar c then gaps true cs else c :: cs)
    else if c = ' ' || c = '\t' then gaps false cs
    else if c = '#' then gaps true cs
    else c :: cs

/-! ### Strings -/

/-- The character that hexadecimal digits name. -/
def scalar? (digits : List Char) : Option Char := do
  let n := numeralIn 16 (← digits.mapM Json.hexValue?)
  if n < 0xD800 || (0xDFFF < n && n < 0x110000) then some (Char.ofNat n) else none

/-- The character that a short escape stands for. -/
def shortEscape? (c : Char) : Option Char :=
  if c = '/' then none else Json.simpleEscape? c

/-- The character may stand in a string as it is. -/
def isStringChar (c : Char) : Bool := isCommentChar c

/-- A character in front of a string that is read further. -/
def front (c : Char) : Option (List Char × List Char) → Option (List Char × List Char) :=
  Option.map fun (s, rest) => (c :: s, rest)

/-- A string with escapes on one line, after its opening quote, and the text after it. -/
def basic? : List Char → Option (List Char × List Char)
  | [] => none
  | '\\' :: 'u' :: a :: b :: c :: d :: cs => do front (← scalar? [a, b, c, d]) (basic? cs)
  | '\\' :: 'U' :: a :: b :: c :: d :: e :: f :: g :: h :: cs => do
    front (← scalar? [a, b, c, d, e, f, g, h]) (basic? cs)
  | '\\' :: e :: cs => do front (← shortEscape? e) (basic? cs)
  | c :: cs =>
    if c = '"' then some ([], cs)
    else if isStringChar c && c ≠ '\\' then front c (basic? cs)
    else none

/-- A string with escapes on several lines, after its opening quotes, and the text after it.
After a backslash at the end of a line everything blank is skipped. -/
def multiBasic? (skipping : Bool) : List Char → Option (List Char × List Char)
  | [] => none
  | '"' :: '"' :: '"' :: '"' :: '"' :: cs => some (['"', '"'], cs)
  | '"' :: '"' :: '"' :: '"' :: cs => some (['"'], cs)
  | '"' :: '"' :: '"' :: cs => some ([], cs)
  | '\\' :: 'u' :: a :: b :: c :: d :: cs => do
    front (← scalar? [a, b, c, d]) (multiBasic? false cs)
  | '\\' :: 'U' :: a :: b :: c :: d :: e :: f :: g :: h :: cs => do
    front (← scalar? [a, b, c, d, e, f, g, h]) (multiBasic? false cs)
  | '\\' :: e :: cs =>
    if (newline? (blanks (e :: cs))).isSome then
      multiBasic? true cs
    else do front (← shortEscape? e) (multiBasic? false cs)
  | '\r' :: '\n' :: cs =>
    if skipping then multiBasic? true cs else front '\n' (multiBasic? false cs)
  | c :: cs =>
    if skipping && (c = '\n' || c = ' ' || c = '\t') then multiBasic? true cs
    else if c = '\n' || (isStringChar c && c ≠ '\\') then front c (multiBasic? false cs)
    else none

/-- A string without escapes on one line, after its opening quote, and the text after it. -/
def literal? : List Char → Option (List Char × List Char)
  | [] => none
  | c :: cs =>
    if c = '\'' then some ([], cs)
    else if isStringChar c then front c (literal? cs)
    else none

/-- A string without escapes on several lines, after its opening quotes, and the text after
it. -/
def multiLiteral? : List Char → Option (List Char × List Char)
  | [] => none
  | '\'' :: '\'' :: '\'' :: '\'' :: '\'' :: cs => some (['\'', '\''], cs)
  | '\'' :: '\'' :: '\'' :: '\'' :: cs => some (['\''], cs)
  | '\'' :: '\'' :: '\'' :: cs => some ([], cs)
  | '\r' :: '\n' :: cs => front '\n' (multiLiteral? cs)
  | c :: cs =>
    if c = '\n' || isStringChar c then front c (multiLiteral? cs) else none

/-- The text without a line end in front. -/
def dropNewline (cs : List Char) : List Char := (newline? cs).getD cs

/-! ### Keys -/

/-- The character may stand in a bare key. -/
def isBareChar (c : Char) : Bool := c.isAlphanum || c = '_' || c = '-'

/-- One part of a key, and the text after it. -/
def simpleKey? : List Char → Option (String × List Char)
  | '"' :: cs => (basic? cs).map fun (s, rest) => (String.ofList s, rest)
  | '\'' :: cs => (literal? cs).map fun (s, rest) => (String.ofList s, rest)
  | cs =>
    let bare := cs.takeWhile isBareChar
    if bare.isEmpty then none else some (String.ofList bare, cs.dropWhile isBareChar)

/-- How deep keys and values may be nested. -/
def nestingLimit : Nat := 79

/-- A key of at most `parts` dotted parts, with spaces around each, and the text after it. -/
def key? : Nat → List Char → Option (List String × List Char)
  | 0, _ => none
  | parts + 1, cs => do
    let (k, cs) ← simpleKey? (blanks cs)
    match blanks cs with
    | '.' :: cs =>
      let (ks, cs) ← key? parts cs
      return (k :: ks, cs)
    | cs => return ([k], cs)

/-! ### Values -/

/-- The character may stand in a number, a truth value, a date or a time. -/
def isWordChar (c : Char) : Bool :=
  c.isAlphanum || c = '+' || c = '-' || c = '.' || c = ':' || c = '_'

/-- A word, and the text after it.  A time may follow its date after one space. -/
def wordOf (cs : List Char) : List Char × List Char :=
  let word := cs.takeWhile isWordChar
  match date? word, cs.dropWhile isWordChar with
  | some [], ' ' :: a :: b :: ':' :: rest =>
    if a.isDigit && b.isDigit then
      (word ++ [' ', a, b, ':'] ++ rest.takeWhile isWordChar, rest.dropWhile isWordChar)
    else (word, ' ' :: a :: b :: ':' :: rest)
  | _, rest => (word, rest)

/-- A string that is a value. -/
def stringValue : List Char × List Char → Toml × List Char
  | (s, rest) => (string (String.ofList s), rest)

mutual

/-- A value with at most `depth` lists and tables inside each other, and the text after it. -/
def value? : Nat → Nat → List Char → Option (Toml × List Char)
  | 0, _, _ => none
  | fuel + 1, depth, cs =>
    match cs with
    | '"' :: '"' :: '"' :: cs => (multiBasic? false (dropNewline cs)).map stringValue
    | '"' :: cs => (basic? cs).map stringValue
    | '\'' :: '\'' :: '\'' :: cs => (multiLiteral? (dropNewline cs)).map stringValue
    | '\'' :: cs => (literal? cs).map stringValue
    | '[' :: cs =>
      if depth = 0 then none
      else (items? fuel (depth - 1) cs).map fun (vs, rest) => (array vs, rest)
    | '\x7b' :: cs =>
      if depth = 0 then none
      else match blanks cs with
        | '\x7d' :: rest => some (table .inline [], rest)
        | cs => (entries? fuel (depth - 1) [] cs).map fun (es, rest) => (table .inline es, rest)
    | cs =>
      let (word, rest) := wordOf cs
      (word? word).map fun v => (v, rest)

/-- The items of a list up to its closing bracket, and the text after it. -/
def items? : Nat → Nat → List Char → Option (List Toml × List Char)
  | 0, _, _ => none
  | fuel + 1, depth, cs =>
    match gaps false cs with
    | ']' :: rest => some ([], rest)
    | cs => do
      let (v, cs) ← value? fuel depth cs
      match gaps false cs with
      | ',' :: cs =>
        let (vs, rest) ← items? fuel depth cs
        return (v :: vs, rest)
      | ']' :: rest => return ([v], rest)
      | _ => none

/-- The definitions of an inline table, beside the entries so far, up to its closing brace, and
the text after it. -/
def entries? : Nat → Nat → Entries → List Char → Option (Entries × List Char)
  | 0, _, _, _ => none
  | fuel + 1, depth, es, cs => do
    let (keys, cs) ← key? nestingLimit cs
    let (v, cs) ← value? fuel depth (blanks (← expect? '=' cs))
    let es ← define keys v es
    match blanks cs with
    | ',' :: cs => entries? fuel depth es cs
    | '\x7d' :: rest => return (es, rest)
    | _ => none

end

/-! ### Documents -/

/-- The lines of a document below the header of the table `under`. -/
def lines? : Nat → List String → Entries → List Char → Option Entries
  | 0, _, _, _ => none
  | fuel + 1, under, es, cs =>
    match blanks cs with
    | [] => some es
    | '[' :: '[' :: cs => do
      let (keys, cs) ← key? nestingLimit cs
      let cs ← endOfLine? (← expect? ']' (← expect? ']' cs))
      lines? fuel keys (← openItem keys es) cs
    | '[' :: cs => do
      let (keys, cs) ← key? nestingLimit cs
      let cs ← endOfLine? (← expect? ']' cs)
      lines? fuel keys (← openTable keys es) cs
    | cs =>
      match endOfLine? cs with
      | some cs => lines? fuel under es cs
      | none => do
        let (keys, cs) ← key? nestingLimit cs
        let cs := blanks (← expect? '=' cs)
        let (v, cs) ← value? (2 * cs.length + 1) nestingLimit cs
        let cs ← endOfLine? cs
        lines? fuel under (← defineUnder under keys v es) cs

/-- The text without a byte order mark in front. -/
def dropMark : List Char → List Char
  | '\ufeff' :: cs => cs
  | cs => cs

/-- The table of a document. -/
def parse? (cs : List Char) : Option Toml :=
  let cs := dropMark cs
  (lines? (cs.length + 1) [] [] cs).map (table .header)

end GraphStore.Toml
