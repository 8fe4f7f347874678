import GraphStore.Decimal.Text
import GraphStore.Json.Basic
import GraphStore.Text.Quoted

/-!
# Why a JSON value is refused

A `DecodeError` says what was found and what was expected there; `DecodeError.message` is its
text.  The place in the value is not part of it.
-/

namespace GraphStore

/-- What stands in a JSON value, at the top. -/
inductive Found where
  | null
  | bool (value : Bool)
  | number (value : Number)
  | string (value : String)
  | sequence
  | map
  deriving DecidableEq

/-- What stands in a value, at the top. -/
def Found.of : Json → Found
  | .null => .null
  | .bool b => .bool b
  | .num n => .number n
  | .str s => .string s
  | .arr _ => .sequence
  | .obj _ => .map

/-- Kinds of bounded integers. -/
inductive IntegerKind where
  | i64
  | u64
  | usize
  deriving DecidableEq

/-- What a reader expects. -/
inductive Expected where
  | string
  | boolean
  | sequence
  | unit
  | integer (kind : IntegerKind)
  | record (name : String)
  | oneName
  | tagged (name : String)
  /-- The fields that come with one message. -/
  | payload (message variant : String)
  | singleField
  /-- A record written as a list of so many elements. -/
  | elements (name : String) (count : Nat)
  | fewerElements
  | listOf (count : Nat)
  deriving DecidableEq

/-- Why a value is refused. -/
inductive DecodeError where
  | wrongType (found : Found) (expected : Expected)
  /-- The value is of the right type and out of range. -/
  | wrongValue (found : Found) (expected : Expected)
  | missingField (name : String)
  | unknownName (name : String) (known : List String)
  | wrongLength (length : Nat) (expected : Expected)
  deriving DecidableEq

/-- The outcome of reading a value. -/
abbrev Decoded (α : Type) := Except DecodeError α

/-! ### Texts -/

def backquoted (s : String) : String := "\x60" ++ s ++ "\x60"

def Found.text : Found → String
  | .null => "null"
  | .bool true => "boolean " ++ backquoted "true"
  | .bool false => "boolean " ++ backquoted "false"
  | .number (.integer n) => "integer " ++ backquoted (String.ofList (integerText n))
  | .number (.double x) => "floating point " ++ backquoted (String.ofList x.text)
  | .string s => "string " ++ Text.quoted s
  | .sequence => "sequence"
  | .map => "map"

def IntegerKind.text : IntegerKind → String
  | .i64 => "i64"
  | .u64 => "u64"
  | .usize => "usize"

/-- A count of elements in words. -/
def elementCount (n : Nat) : String :=
  if n = 1 then "1 element" else String.ofList (decimalDigits n) ++ " elements"

def Expected.text : Expected → String
  | .string => "a string"
  | .boolean => "a boolean"
  | .sequence => "a sequence"
  | .unit => "unit"
  | .integer kind => kind.text
  | .record name => "struct " ++ name
  | .oneName => "string or map"
  | .tagged name => "adjacently tagged enum " ++ name
  | .payload message variant => "struct variant " ++ message ++ "::" ++ variant
  | .singleField => "map with a single key"
  | .elements name count => "struct " ++ name ++ " with " ++ elementCount count
  | .fewerElements => "fewer elements in array"
  | .listOf count => elementCount count ++ " in sequence"

/-- The known names in words. -/
def knownNames : List String → String
  | [] => "there are no variants"
  | [a] => "expected " ++ backquoted a
  | [a, b] => "expected " ++ backquoted a ++ " or " ++ backquoted b
  | names => "expected one of " ++ String.intercalate ", " (names.map backquoted)

def DecodeError.message : DecodeError → String
  | .wrongType found expected => "invalid type: " ++ found.text ++ ", expected " ++ expected.text
  | .wrongValue found expected => "invalid value: " ++ found.text ++ ", expected " ++ expected.text
  | .missingField name => "missing field " ++ backquoted name
  | .unknownName name known => "unknown variant " ++ backquoted name ++ ", " ++ knownNames known
  | .wrongLength length expected =>
    "invalid length " ++ String.ofList (decimalDigits length) ++ ", expected " ++ expected.text

end GraphStore
