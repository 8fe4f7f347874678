/-!
# Files

`Files` finds the bytes of a file by its path.  `Files.ofDirectory` is a directory held in
memory: a path is resolved component by component, where empty components and dots stay in the
same directory.
-/

namespace GraphStore

/-- Files by path: the bytes of those that can be read. -/
abbrev Files := String → Option (List UInt8)

namespace Files

/-- The text between slashes. -/
def components : List Char → List (List Char)
  | [] => [[]]
  | c :: cs =>
    if c = '/' then [] :: components cs
    else match components cs with
      | name :: rest => (c :: name) :: rest
      | [] => [[c]]

/-- The component leads to another place. -/
def isStep (name : List Char) : Bool := !name.isEmpty && name ≠ ['.']

/-- The names that a path to a file goes through; nothing when the path ends in a directory. -/
def names? (path : String) : Option (List String) :=
  let names := components path.toList
  if names.getLast?.any isStep then some ((names.filter isStep).map String.ofList) else none

/-- The files of a directory that is the current one.  Of the other files only the null device
is known; it is empty. -/
def ofDirectory (entries : List (String × List UInt8)) : Files := fun path => do
  let names ← names? path
  if path.startsWith "/" then
    if names = ["dev", "null"] then some [] else none
  else
    let (_, bytes) ← entries.find? fun (name, _) => names = [name]
    return bytes

end Files

end GraphStore
