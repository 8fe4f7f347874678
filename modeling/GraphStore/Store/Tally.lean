import GraphStore.Graph.Entity

/-!
# Counting changes

An incoming entity is new, the same as the one already held, or an update of it (`Verdict`).
Fields that vary from one response to the next without meaning, such as a score, are dropped
before the comparison.  A `Tally` counts the verdicts of a batch.
-/

namespace GraphStore

/-- How an incoming entity compares with the one already held. -/
inductive Verdict where
  | new
  | unchanged
  | updated
  deriving DecidableEq

/-- Compare an incoming entity with the one already held. -/
def Verdict.of {k : Kind} (held : Option (Entity k)) (incoming : Entity k) : Verdict :=
  match held with
  | none => .new
  | some held => if held.same incoming then .unchanged else .updated

/-- The counts of a batch. -/
structure Tally where
  new : Nat
  unchanged : Nat
  updated : Nat
  /-- Whether the user interface was told. -/
  notified : Bool
  deriving DecidableEq

namespace Tally

def zero : Tally := ⟨0, 0, 0, false⟩

def count (t : Tally) : Verdict → Tally
  | .new => { t with new := t.new + 1 }
  | .unchanged => { t with unchanged := t.unchanged + 1 }
  | .updated => { t with updated := t.updated + 1 }

/-- The counts of two batches together. -/
def merge (s t : Tally) : Tally :=
  ⟨s.new + t.new, s.unchanged + t.unchanged, s.updated + t.updated, s.notified || t.notified⟩

/-- Entities put into the cache. -/
def written (t : Tally) : Nat := t.new + t.updated

def total (t : Tally) : Nat := t.new + t.unchanged + t.updated

theorem merge_zero (t : Tally) : t.merge zero = t := by simp [merge, zero]

theorem zero_merge (t : Tally) : zero.merge t = t := by simp [merge, zero]

theorem merge_assoc (a b c : Tally) : (a.merge b).merge c = a.merge (b.merge c) := by
  simp [merge, Nat.add_assoc, Bool.or_assoc]

end Tally

end GraphStore
