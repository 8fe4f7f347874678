import GraphStore.Store.Basic
import GraphStore.Text.Blank
import GraphStore.Text.Lines
import GraphStore.Text.Utf8

/-!
# Replaying captured responses

A capture has one response on a line.  Blank lines are passed over, lines that are not JSON are
counted and skipped, and every other line is taken in.  A line that is not UTF-8 ends the
replay; what stands before it stays taken in.
-/

namespace GraphStore

/-- A line of a capture. -/
inductive CaptureLine where
  | blank
  | response (value : Json)
  /-- Anything else. -/
  | unreadable

/-- What a line holds. -/
def CaptureLine.of (text : List Char) : CaptureLine :=
  if text.all Text.isBlank then .blank
  else match Json.parse? text with
    | some a => .response a
    | none => .unreadable

/-- The totals of a replay. -/
structure ReplayTotals where
  responses : Nat
  /-- Lines that were not JSON. -/
  skipped : Nat
  tally : Tally
  deriving DecidableEq

namespace ReplayTotals

def zero : ReplayTotals := ⟨0, 0, .zero⟩

/-- The totals of two replays together. -/
def merge (s t : ReplayTotals) : ReplayTotals :=
  ⟨s.responses + t.responses, s.skipped + t.skipped, s.tally.merge t.tally⟩

end ReplayTotals

/-- The end of a replay at a line that is not text. -/
inductive ReplayError where
  | notText
  deriving DecidableEq

namespace Store

/-- Take in one line. -/
def replayLine (s : Store) (focus : Focus) (workspaceId : String) (text : List Char) :
    Store × ReplayTotals × Emission :=
  match CaptureLine.of text with
  | .blank => (s, .zero, .none)
  | .unreadable => (s, ⟨0, 1, .zero⟩, .none)
  | .response a =>
    let (s, tally, emission) := s.absorb focus workspaceId a
    (s, ⟨1, 0, tally⟩, emission)

/-- Take in lines, up to one that is not text. -/
def replayLines (s : Store) (focus : Focus) (workspaceId : String) :
    List (List UInt8) → Store × Except ReplayError ReplayTotals × Emission
  | [] => (s, .ok .zero, .none)
  | line :: rest =>
    match Text.Utf8.decode? line with
    | none => (s, .error .notText, .none)
    | some text =>
      let (s, totals, emission) := s.replayLine focus workspaceId text
      let (s, result, emission') := replayLines s focus workspaceId rest
      (s, result.map totals.merge, emission ++ emission')

/-- Take in a whole capture. -/
def replay (s : Store) (focus : Focus) (workspaceId : String) (capture : List UInt8) :
    Store × Except ReplayError ReplayTotals × Emission :=
  s.replayLines focus workspaceId (Text.lines capture)

end Store

end GraphStore
