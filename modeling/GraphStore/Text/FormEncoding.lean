import GraphStore.Text.Utf8

/-!
# Form-encoded query text

In a query, letters, digits and the marks `*`, `-`, `.`, `_` stand for themselves, a space is
written as a plus sign, and every other byte of the UTF-8 form as a percent sign with two
hexadecimal digits.
-/

namespace GraphStore.Text

/-- An upper-case hexadecimal digit. -/
def upperHexDigit (n : Nat) : Char := (Nat.digitChar n).toUpper

/-- One byte of a query. -/
def formByte (b : UInt8) : List Char :=
  let c := Char.ofNat b.toNat
  if c.isAlphanum || ['*', '-', '.', '_'].contains c then [c]
  else if c = ' ' then ['+']
  else ['%', upperHexDigit (b.toNat / 16), upperHexDigit (b.toNat % 16)]

/-- The text as it stands in a query. -/
def formEncode (s : String) : String :=
  String.ofList ((Utf8.encode s.toList).flatMap formByte)

end GraphStore.Text
