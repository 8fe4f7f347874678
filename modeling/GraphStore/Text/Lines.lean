/-!
# Lines of bytes

A line ends at a line feed or at the end of the input; a carriage return right before the line
feed belongs to the line end.  Input that ends with a line feed has no further, empty line.
-/

namespace GraphStore.Text

def lineFeed : UInt8 := 10

def carriageReturn : UInt8 := 13

/-- The bytes of a line, given last byte first, without the carriage return of its end. -/
def closeLine : List UInt8 → List UInt8
  | [] => []
  | b :: bytes => if b = carriageReturn then bytes.reverse else (b :: bytes).reverse

/-- The lines of `bytes`, when the bytes of `line`, last byte first, stand before them on the
first line. -/
def linesFrom (line : List UInt8) : List UInt8 → List (List UInt8)
  | [] => if line.isEmpty then [] else [line.reverse]
  | b :: bytes =>
    if b = lineFeed then closeLine line :: linesFrom [] bytes else linesFrom (b :: line) bytes

/-- The lines of an input, without their ends. -/
def lines (bytes : List UInt8) : List (List UInt8) := linesFrom [] bytes

end GraphStore.Text
