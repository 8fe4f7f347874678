import GraphStore.Text.Quoted

/-!
# Kinds of graph entities

A graph holds vertices and edges.  A request names the kind it asks for; any other name is
refused.
-/

namespace GraphStore

/-- The kinds of entities of a graph. -/
inductive Kind where
  | vertex
  | edge
  deriving DecidableEq

/-- The refusal of a name that is no kind. -/
structure UnknownKind where
  name : String
  deriving DecidableEq

/-- The text of the refusal. -/
def UnknownKind.message (e : UnknownKind) : String :=
  "kind parameter not valid: " ++ Text.quoted e.name

namespace Kind

def name : Kind → String
  | vertex => "vertex"
  | edge => "edge"

/-- The kind with a name. -/
def ofName (s : String) : Except UnknownKind Kind :=
  if s = "vertex" then .ok vertex
  else if s = "edge" then .ok edge
  else .error ⟨s⟩

theorem ofName_name (k : Kind) : ofName k.name = .ok k := by cases k <;> rfl

/-- A name is refused when it is the name of neither kind. -/
theorem ofName_eq_error_iff {s : String} {e : UnknownKind} :
    ofName s = .error e ↔ (s ≠ "vertex" ∧ s ≠ "edge") ∧ e = ⟨s⟩ := by
  unfold ofName
  split
  next h => simp [h]
  next h =>
    split
    next h' => simp [h']
    next h' => simp [h, h', eq_comm]

def names : List (String × Kind) := [("vertex", vertex), ("edge", edge)]

end Kind

end GraphStore
