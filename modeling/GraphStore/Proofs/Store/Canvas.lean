import GraphStore.Proofs.SortedMap
import GraphStore.Proofs.Store.Held

/-!
# Caches and canvas stand apart

A store holds entities and, for every workspace, the vertices on its canvas.  Neither has to do
with the other: taking in a response leaves every canvas as it is (`Store.onGraph_absorb`), and
stores that hold the same entities take in a response alike, whatever is on their canvases
(`Store.SameCaches.absorb`).
-/

namespace GraphStore

namespace Store

/-! ### The canvas -/

theorem isOnGraph_eq (s : Store) (w v : String) :
    s.isOnGraph w v = (s.partition w).onGraph.contains v := by
  unfold isOnGraph onGraph? partition
  cases s.partition? w with
  | none => rfl
  | some p => rfl

theorem onGraph?_eq (s : Store) (v : String) : s.onGraph? v =
    if (s.partition? v).isSome then some (s.partition v).onGraph else none := by
  unfold onGraph? partition
  cases s.partition? v <;> rfl

theorem onGraph_setOnGraph (s : Store) (w' : String) (ids : List String) (w : String) :
    ((s.setOnGraph w' ids).partition w).onGraph =
      if w' = w then .ofNames ids else (s.partition w).onGraph := by
  rw [setOnGraph, partition_withPartition]
  by_cases h : w = w'
  · rw [if_pos h, if_pos h.symm]
  · rw [if_neg h, if_neg (Ne.symm h)]

section

variable (s : Store) (focus : Focus) {w w' : String}

theorem onGraph_withCache (w' w : String) {k : Kind} (c : Cache (Entity k)) :
    ((s.withPartition w' ((s.partition w').withCache k c)).partition w).onGraph =
      (s.partition w).onGraph := by
  rw [partition_withPartition]
  by_cases h : w = w'
  · rw [if_pos h, h, Partition.onGraph_withCache]
  · rw [if_neg h]

theorem onGraph_takeIn (bs : List Batch) :
    ((s.takeIn focus w' bs).1.partition w).onGraph = (s.partition w).onGraph := by
  refine s.takeIn_induction focus w'
    (P := fun t => (t.partition w).onGraph = (s.partition w).onGraph) rfl fun t b _ ht => ?_
  exact (t.onGraph_withCache w' w _).trans ht

/-- A response leaves every canvas as it is. -/
theorem onGraph_absorb (response : Json) :
    ((s.absorb focus w' response).1.partition w).onGraph = (s.partition w).onGraph := by
  rw [absorb_eq, onGraph_takeIn]

end

/-! ### The caches -/

/-- The stores hold the same entities, in the same order of recency and with the same counters, and
take in entities by the same rules. -/
structure SameCaches (s t : Store) : Prop where
  /-- The settings are the same. -/
  settings : s.settings = t.settings
  /-- Departures are observed in both stores or in none. -/
  observed : s.observed = t.observed
  /-- The caches are the same. -/
  cache : ∀ w k, (s.partition w).cache k = (t.partition w).cache k

namespace SameCaches

variable {s t : Store}

@[refl] theorem refl (s : Store) : s.SameCaches s := ⟨rfl, rfl, fun _ _ => rfl⟩

theorem setOnGraph (h : s.SameCaches t) (w' : String) (ids : List String) :
    (s.setOnGraph w' ids).SameCaches t := by
  refine ⟨h.settings, h.observed, fun w k => ?_⟩
  rw [← h.cache w k, Store.setOnGraph, partition_withPartition]
  by_cases hw : w = w'
  · rw [if_pos hw, hw]
    cases k <;> rfl
  · rw [if_neg hw]

theorem withCache (h : s.SameCaches t) (w' : String) {k' : Kind} (c : Cache (Entity k')) :
    (s.withPartition w' ((s.partition w').withCache k' c)).SameCaches
      (t.withPartition w' ((t.partition w').withCache k' c)) := by
  refine ⟨h.settings, h.observed, fun w k => ?_⟩
  by_cases hsame : w = w' ∧ k = k'
  · obtain ⟨rfl, rfl⟩ := hsame
    simp [partition_withPartition]
  · have hne : w ≠ w' ∨ k ≠ k' := by rwa [← not_and_or]
    rw [cache_withCache s w w' k c hne, cache_withCache t w w' k c hne, h.cache]

variable (focus : Focus) (w : String) {k : Kind}

theorem cacheBatch (h : s.SameCaches t) (batch : List (Entity k)) :
    (s.cacheBatch focus w k batch).1.SameCaches (t.cacheBatch focus w k batch).1 ∧
      (s.cacheBatch focus w k batch).2 = (t.cacheBatch focus w k batch).2 := by
  have hpolicy : s.policy = t.policy := by simp [policy, h.observed]
  simp only [Store.cacheBatch, h.settings, hpolicy, h.cache w k, and_true]
  exact h.withCache w _

theorem takeIn (h : s.SameCaches t) (bs : List Batch) :
    (s.takeIn focus w bs).1.SameCaches (t.takeIn focus w bs).1 ∧
      (s.takeIn focus w bs).2 = (t.takeIn focus w bs).2 := by
  induction bs generalizing s t with
  | nil => exact ⟨h, rfl⟩
  | cons b bs ih =>
    obtain ⟨hstore, hshown⟩ := h.cacheBatch focus w b.entities
    obtain ⟨hstore', hshown'⟩ := ih hstore
    exact ⟨hstore', by simp only [takeIn_cons, hshown, hshown']⟩

/-- Stores that hold the same entities take in a response alike. -/
theorem absorb (h : s.SameCaches t) (response : Json) :
    (s.absorb focus w response).1.SameCaches (t.absorb focus w response).1 ∧
      (s.absorb focus w response).2 = (t.absorb focus w response).2 := by
  rw [absorb_eq, absorb_eq]
  exact h.takeIn focus w _

end SameCaches

end Store

end GraphStore
