import GraphStore.Wire.DecodeError

/-!
# Reading records from JSON values

A type that travels as JSON is an instance of `Wire`: `Wire.read` checks and decodes a value,
`Wire.write` encodes it with its fields in their declared order.

A record is read from an object or, where every field is known, from the list of its fields.
The fields of an object are read by increasing name, and the first one that is wrong decides;
only then is a missing field an error, the first in declared order.  `optionalField` and
`require` are these two steps.

Two rules depend on where a value is read from (`Source`).  The payload of a message object is
read after its name, out of a buffer; a list that is too long is refused in other words there,
and an empty object may stand for the null beside a name.  In a settings document a list may be
longer than needed.
-/

namespace GraphStore

/-- The integers of a kind. -/
def IntegerKind.holds : IntegerKind → Int → Bool
  | .i64 => fitsSigned
  | .u64 => fitsUnsigned
  | .usize => fitsUnsigned

/-- Where a value is read from. -/
inductive Source where
  | direct
  /-- From the buffered payload of a message. -/
  | buffered
  | settings
  deriving DecidableEq

/-- Types that travel as JSON. -/
class Wire (α : Type) where
  read : Source → Json → Decoded α
  /-- Encode a value, the fields of a record in declared order. -/
  write : α → Json

namespace Wire

/-- The encoding as a value, the fields of every object in order. -/
def value {α : Type} [Wire α] (a : α) : Json := (write a).canonical

/-! ### Single values -/

/-- A refusal of the value's type. -/
def refuse {α : Type} (a : Json) (expected : Expected) : Decoded α :=
  .error (.wrongType (.of a) expected)

def readString : Json → Decoded String
  | .str s => .ok s
  | a => refuse a .string

def readBool : Json → Decoded Bool
  | .bool b => .ok b
  | a => refuse a .boolean

/-- An integer of a kind. -/
def readInteger (kind : IntegerKind) : Json → Decoded Int
  | .num (.integer n) =>
    if kind.holds n then .ok n
    else .error (.wrongValue (.number (.integer n)) (.integer kind))
  | a => refuse a (.integer kind)

/-- A list of values that `read` accepts. -/
def readList {α : Type} (read : Json → Decoded α) : Json → Decoded (List α)
  | .arr items => items.mapM read
  | a => refuse a .sequence

/-- A value that may be null. -/
def readNullable {α : Type} (read : Json → Decoded α) : Json → Decoded (Option α)
  | .null => .ok none
  | a => (read a).map some

/-- Nothing but null; a buffered empty object will do. -/
def readUnit : Source → Json → Decoded Unit
  | _, .null => .ok ()
  | .buffered, .obj [] => .ok ()
  | _, a => refuse a .unit

/-- One of several names, alone or as the only field of an object. -/
def readName {α : Type} (names : List (String × α)) (source : Source) : Json → Decoded α
  | .str s => known s
  | .obj [(s, unit)] => do
    let a ← known s
    readUnit source unit
    return a
  | .obj _ => .error (.wrongValue .map .singleField)
  | a => refuse a .oneName
where
  known (s : String) : Decoded α :=
    match Assoc.get? s names with
    | some a => .ok a
    | none => .error (.unknownName s (names.map (·.1)))

/-! ### Fields -/

/-- The field of an object, if it is there. -/
def optionalField {α : Type} (fields : List (String × Json)) (name : String)
    (read : Json → Decoded α) : Decoded (Option α) :=
  match Assoc.get? name fields with
  | some a => (read a).map some
  | none => .ok none

/-- A field that must be there. -/
def require {α : Type} (name : String) : Option α → Decoded α
  | some a => .ok a
  | none => .error (.missingField name)

/-- The element of a list, or what stands for a missing one. -/
def element {α : Type} (items : List Json) (i : Nat) (read : Json → Decoded α)
    (missing : Decoded α) : Decoded α :=
  match items[i]? with
  | some a => read a
  | none => missing

/-- The refusal of a list that ends before a required element. -/
def tooShort {α : Type} (items : List Json) (name : String) (count : Nat) : Decoded α :=
  .error (.wrongLength items.length (.elements name count))

/-- The refusal of a list with more than `count` elements. -/
def noExcess (source : Source) (items : List Json) (count : Nat) : Decoded Unit :=
  if items.length ≤ count then .ok ()
  else match source with
    | .direct => .error (.wrongLength items.length .fewerElements)
    | .buffered => .error (.wrongLength items.length (.listOf count))
    | .settings => .ok ()

end Wire

end GraphStore
