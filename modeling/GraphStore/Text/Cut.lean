/-!
# Cutting by bytes

Places in a text are counted in bytes of its UTF-8 form.  A cut that would fall inside a
character cannot be made.
-/

namespace GraphStore.Text

/-- The parts of a text before and after its first `n` bytes; nothing when these end inside a
character or past the end. -/
def cutAt? : Nat → List Char → Option (List Char × List Char)
  | 0, cs => some ([], cs)
  | _ + 1, [] => none
  | n + 1, c :: cs =>
    if c.utf8Size ≤ n + 1 then
      (cutAt? (n + 1 - c.utf8Size) cs).map fun (before, after) => (c :: before, after)
    else none

/-- The text between two places. -/
def between? (start stop : Nat) (cs : List Char) : Option (List Char) := do
  let (before, _) ← cutAt? stop cs
  let (_, part) ← cutAt? start before
  return part

end GraphStore.Text
