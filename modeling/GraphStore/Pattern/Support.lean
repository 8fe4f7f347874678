import GraphStore.Pattern.Parser

/-!
# Patterns that can be matched

Patterns are matched against UTF-8 text by an automaton, without tables of the cases and kinds of
characters.  So in the Unicode mode, which is on at first, a pattern can neither ignore case nor
speak of words, digits or blanks; with that mode off, it can do so for ASCII, but must not match
part of a character.

* `Pattern.isSupported` : the pattern asks for nothing else;
* `Pattern.isValid` : a text writes such a pattern, not nested too deeply.
-/

namespace GraphStore

namespace Pattern

/-- The modes that decide what is supported. -/
structure Modes where
  ignoreCase : Bool
  unicode : Bool
  deriving DecidableEq

namespace Modes

/-- The modes at the start of a pattern. -/
def initial : Modes := ⟨false, true⟩

/-- The modes after a switch. -/
def apply (m : Modes) (s : Switch) : Modes :=
  ⟨(s.setting? .ignoreCase).getD m.ignoreCase, (s.setting? .unicode).getD m.unicode⟩

end Modes

/-- The literal is a character of ASCII. -/
def Literal.isAscii (l : Literal) : Bool := l.char.toNat < 0x80

/-- The atom is supported in the modes. -/
def Atom.isSupported (m : Modes) : Atom → Bool
  | .literal l => if m.unicode then !m.ignoreCase else l.isAscii || !l.asByte
  | .anyChar => m.unicode
  | .assertion .edge => true
  | .assertion .wordBoundary => !m.unicode
  | .shorthand negated => !m.unicode && !negated

end Pattern

namespace CharSet

mutual

def isSupported (m : Pattern.Modes) : CharSet → Bool
  | .nothing => true
  | .literal l => if m.unicode then !m.ignoreCase else l.isAscii
  | .range first last => if m.unicode then !m.ignoreCase else first.isAscii && last.isAscii
  | .named _ negated => if m.unicode then !m.ignoreCase else !negated
  | .shorthand negated => !m.unicode && !negated
  | .bracket negated s => (m.unicode || !negated) && s.isSupported m
  | .union ss => allSupported m ss
  | .combined _ left right => left.isSupported m && right.isSupported m

def allSupported (m : Pattern.Modes) : List CharSet → Bool
  | [] => true
  | s :: ss => s.isSupported m && allSupported m ss

end

end CharSet

namespace Pattern

mutual

/-- The modes after a pattern that is supported in the modes in front of it. -/
def after? (m : Modes) : Pattern → Option Modes
  | .empty => some m
  | .atom a => if a.isSupported m then some m else none
  | .oneOf s => if s.isSupported m then some m else none
  | .switch s => some (m.apply s)
  | .repeated p => p.after? m
  | .group s p => (p.after? (m.apply s)).map fun _ => m
  | .sequence ps => afterAll? m ps
  | .alternatives ps => afterAll? m ps

/-- The modes after several patterns; a switch in one of them lasts through the next ones. -/
def afterAll? (m : Modes) : List Pattern → Option Modes
  | [] => some m
  | p :: ps => do afterAll? (← p.after? m) ps

end

def isSupported (p : Pattern) : Bool := (p.after? .initial).isSome

/-- How deep a pattern may be nested. -/
def nestingLimit : Nat := 250

/-- The text writes a pattern that can be matched. -/
def isValid (cs : List Char) : Bool :=
  match parse? cs with
  | some p => p.height ≤ nestingLimit && p.isSupported
  | none => false

end Pattern

end GraphStore
