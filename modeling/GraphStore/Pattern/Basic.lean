/-!
# Patterns

A pattern is a regular expression: characters, assertions, sets of characters in brackets,
groups, repetition, sequences and alternatives.  The values of the fields in a log filter are
patterns.

* `Pattern` : what a pattern is made of;
* `CharSet` : what stands between brackets;
* `Pattern.height`, `CharSet.height` : how deep the parts of a pattern are nested.
-/

namespace GraphStore

/-- A way of matching that a switch turns on or off. -/
inductive Pattern.Mode where
  | ignoreCase
  | multiLine
  | dotAll
  | lazy
  /-- Characters rather than bytes are matched. -/
  | unicode
  | crlf
  | verbose
  deriving DecidableEq

/-- What a switch turns on and off. -/
abbrev Pattern.Switch := List (Pattern.Mode × Bool)

/-- What a switch says about a mode. -/
def Pattern.Switch.setting? (s : Pattern.Switch) (m : Pattern.Mode) : Option Bool := s.lookup m

/-- A character that stands for itself. -/
structure Pattern.Literal where
  char : Char
  /-- The character is written as a byte, with two hexadecimal digits. -/
  asByte : Bool

/-- A condition on a place in a text. -/
inductive Pattern.Assertion where
  | edge
  | wordBoundary

/-- A part of a pattern that has no parts. -/
inductive Pattern.Atom where
  | literal (l : Literal)
  | anyChar
  | assertion (a : Assertion)
  /-- Digits, blanks or word characters, or all but these. -/
  | shorthand (negated : Bool)

/-- An operation on two sets of characters. -/
inductive SetOperator where
  | intersection
  | difference
  | symmetricDifference

/-- A set of characters. -/
inductive CharSet where
  | nothing
  | literal (l : Pattern.Literal)
  | range (first last : Pattern.Literal)
  | named (name : String) (negated : Bool)
  | shorthand (negated : Bool)
  | bracket (negated : Bool) (inside : CharSet)
  | union (sets : List CharSet)
  | combined (op : SetOperator) (left right : CharSet)

/-- A regular expression. -/
inductive Pattern where
  | empty
  | atom (a : Pattern.Atom)
  | oneOf (set : CharSet)
  /-- A change of modes up to the end of the group that it stands in. -/
  | switch (s : Pattern.Switch)
  | repeated (p : Pattern)
  /-- A pattern in parentheses, with a change of modes inside. -/
  | group (s : Pattern.Switch) (p : Pattern)
  | sequence (ps : List Pattern)
  | alternatives (ps : List Pattern)

namespace CharSet

/-- The union of sets, the last one first. -/
def ofParts : List CharSet → CharSet
  | [] => .nothing
  | [s] => s
  | ss => .union ss.reverse

mutual

/-- How deep brackets, unions and operations are nested. -/
def height : CharSet → Nat
  | .bracket _ s => s.height + 1
  | .union ss => heights ss + 1
  | .combined _ left right => max left.height right.height + 1
  | _ => 0

def heights : List CharSet → Nat
  | [] => 0
  | s :: ss => max s.height (heights ss)

end

end CharSet

namespace Pattern

/-- The sequence of patterns, the last one first. -/
def ofItems : List Pattern → Pattern
  | [] => .empty
  | [p] => p
  | ps => .sequence ps.reverse

/-- The choice between patterns, the last one first. -/
def ofBranches : List Pattern → Pattern
  | [p] => p
  | ps => .alternatives ps.reverse

mutual

/-- How deep sets, repetitions, groups, sequences and alternatives are nested. -/
def height : Pattern → Nat
  | .oneOf s => s.height
  | .repeated p => p.height + 1
  | .group _ p => p.height + 1
  | .sequence ps => heights ps + 1
  | .alternatives ps => heights ps + 1
  | _ => 0

def heights : List Pattern → Nat
  | [] => 0
  | p :: ps => max p.height (heights ps)

end

end Pattern

end GraphStore
