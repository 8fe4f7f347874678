import GraphStore.Decimal.Text
import GraphStore.Json.Basic

/-!
# Compact JSON text

`Json.compact` writes a value without spaces, the fields of an object in the order in which the
value lists them.  Inside strings only quotes, backslashes and controls are escaped.
-/

namespace GraphStore.Json

/-- Two lower-case hexadecimal digits. -/
def hexPair (n : Nat) : List Char := [Nat.digitChar (n / 16), Nat.digitChar (n % 16)]

def stringChar (c : Char) : List Char :=
  if c = '"' then ['\\', '"']
  else if c = '\\' then ['\\', '\\']
  else if c = '\n' then ['\\', 'n']
  else if c = '\r' then ['\\', 'r']
  else if c = '\t' then ['\\', 't']
  else if c = '\x08' then ['\\', 'b']
  else if c = '\x0c' then ['\\', 'f']
  else if c.toNat < 0x20 then ['\\', 'u', '0', '0'] ++ hexPair c.toNat
  else [c]

def stringText (s : String) : List Char := ['"'] ++ s.toList.flatMap stringChar ++ ['"']

mutual

/-- The characters of a value's compact text. -/
def chars : Json → List Char
  | null => "null".toList
  | bool true => "true".toList
  | bool false => "false".toList
  | num n => n.text
  | str s => stringText s
  | arr items => '[' :: charsOfItems items
  | obj fields => '\x7b' :: charsOfFields fields
termination_by structural a => a

/-- The items of an array, separated by commas, and its closing bracket. -/
def charsOfItems : List Json → List Char
  | [] => [']']
  | [a] => chars a ++ [']']
  | a :: as => chars a ++ ',' :: charsOfItems as
termination_by structural as => as

/-- The fields of an object, separated by commas, and its closing brace. -/
def charsOfFields : List (String × Json) → List Char
  | [] => ['\x7d']
  | [a] => charsOfField a ++ ['\x7d']
  | a :: as => charsOfField a ++ ',' :: charsOfFields as
termination_by structural as => as

/-- A field: its name, a colon and its value. -/
def charsOfField : String × Json → List Char
  | (k, a) => stringText k ++ ':' :: chars a
termination_by structural a => a

end

/-- The compact text of a value. -/
def compact (a : Json) : String := String.ofList (chars a)

end GraphStore.Json
