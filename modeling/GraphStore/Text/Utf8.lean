/-!
# UTF-8

`Utf8.encode` writes characters as bytes and `Utf8.decode?` reads bytes back, refusing every
sequence that no characters are written as: stray or missing continuation bytes, forms longer
than needed, surrogates and numbers past U+10FFFF.
-/

namespace GraphStore.Text.Utf8

/-- The bytes of a text. -/
def encode (cs : List Char) : List UInt8 := cs.flatMap String.utf8EncodeChar

/-- The byte continues a character. -/
def isTail (b : UInt8) : Bool := 0x80 ≤ b && b ≤ 0xBF

/-- The six bits a continuation byte carries. -/
def tailBits (b : UInt8) : Nat := b.toNat % 64

/-- The text that the bytes write, if they write one. -/
def decode? : List UInt8 → Option (List Char)
  | [] => some []
  | a :: bytes =>
    if a < 0x80 then (decode? bytes).map (Char.ofNat a.toNat :: ·)
    else match bytes with
      | [] => none
      | b :: bytes =>
        if 0xC2 ≤ a && a ≤ 0xDF && isTail b then
          (decode? bytes).map (Char.ofNat (a.toNat % 32 * 64 + tailBits b) :: ·)
        else match bytes with
          | [] => none
          | c :: bytes =>
            if 0xE0 ≤ a && a ≤ 0xEF && isTail b && isTail c && !(a == 0xE0 && b < 0xA0) &&
                !(a == 0xED && 0xA0 ≤ b) then
              (decode? bytes).map
                (Char.ofNat (a.toNat % 16 * 4096 + tailBits b * 64 + tailBits c) :: ·)
            else match bytes with
              | [] => none
              | d :: bytes =>
                if 0xF0 ≤ a && a ≤ 0xF4 && isTail b && isTail c && isTail d &&
                    !(a == 0xF0 && b < 0x90) && !(a == 0xF4 && 0x90 ≤ b) then
                  (decode? bytes).map (Char.ofNat (a.toNat % 8 * 262144 + tailBits b * 4096 +
                    tailBits c * 64 + tailBits d) :: ·)
                else none

end GraphStore.Text.Utf8
