import GraphStore.Json.Token

/-!
# Reading JSON text

A value is built from tokens with a stack of the arrays and objects that are still open, so
that the nesting of a text is the height of the stack.  A repeated field keeps its last value,
and every value that is read is canonical.
-/

namespace GraphStore.Json

/-- An array or object that is still open; items are held last first. -/
inductive Container where
  | array (items : List Json)
  /-- An object with its complete fields, and the name of the field that is being read. -/
  | object (fields : SortedMap Json) (name : String)

/-- What may come next. -/
inductive Stage where
  | value
  /-- A value or the end of the array. -/
  | firstItem
  /-- A name or the end of the object. -/
  | firstName
  | name
  | colon
  /-- A comma or the end of the innermost container. -/
  | separator
  | complete (value : Json)

/-- A value half read: the open containers, innermost first, and what may come next. -/
structure Builder where
  openContainers : List Container
  stage : Stage

namespace Builder

/-- Nothing is read yet. -/
def start : Builder := ⟨[], .value⟩

/-- A complete value goes into the innermost container. -/
def put (value : Json) : List Container → Builder
  | [] => ⟨[], .complete value⟩
  | .array items :: rest => ⟨.array (value :: items) :: rest, .separator⟩
  | .object fields name :: rest => ⟨.object (fields.insert name value) name :: rest, .separator⟩

/-- A container opens, unless `limit` containers are open. -/
def enter (limit : Nat) (c : Container) (stage : Stage) (rest : List Container) :
    Option Builder :=
  if rest.length < limit then some ⟨c :: rest, stage⟩ else none

/-- The next token is the start of a value. -/
def beginValue (limit : Nat) (containers : List Container) : Token → Option Builder
  | .scalar a => some (put a containers)
  | .openArray => enter limit (.array []) .firstItem containers
  | .openObject => enter limit (.object .empty "") .firstName containers
  | _ => none

/-- The next token is the name of a field. -/
def beginField (containers : List Container) : Token → Option Builder
  | .scalar (.str name) =>
    match containers with
    | .object fields _ :: rest => some ⟨.object fields name :: rest, .colon⟩
    | _ => none
  | _ => none

/-- The next token closes the innermost container. -/
def close (containers : List Container) : Token → Option Builder
  | .closeArray =>
    match containers with
    | .array items :: rest => some (put (arr items.reverse) rest)
    | _ => none
  | .closeObject =>
    match containers with
    | .object fields _ :: rest => some (put (obj fields.entries) rest)
    | _ => none
  | _ => none

/-- One token. -/
def step (limit : Nat) (b : Builder) (t : Token) : Option Builder :=
  match b.stage, t with
  | .value, t => beginValue limit b.openContainers t
  | .firstItem, .closeArray => close b.openContainers .closeArray
  | .firstItem, t => beginValue limit b.openContainers t
  | .firstName, .closeObject => close b.openContainers .closeObject
  | .firstName, t => beginField b.openContainers t
  | .name, t => beginField b.openContainers t
  | .colon, .colon => some ⟨b.openContainers, .value⟩
  | .separator, .comma =>
    match b.openContainers with
    | .array _ :: _ => some ⟨b.openContainers, .value⟩
    | .object _ _ :: _ => some ⟨b.openContainers, .name⟩
    | [] => none
  | .separator, t => close b.openContainers t
  | _, _ => none

end Builder

/-- The value that a text is, if it is one with at most `limit` nested containers. -/
def parseWithin? (limit : Nat) (cs : List Char) : Option Json := do
  let tokens ← tokens? cs
  let builder ← tokens.foldlM (Builder.step limit) .start
  match builder.stage with
  | .complete value => some value
  | _ => none

/-- How many arrays and objects may be nested in a text. -/
def nestingLimit : Nat := 127

/-- The value that a text is, if it is one. -/
def parse? (cs : List Char) : Option Json := parseWithin? nestingLimit cs

end GraphStore.Json
