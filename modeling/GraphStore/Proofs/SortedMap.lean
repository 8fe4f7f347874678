import GraphStore.SortedMap
import Mathlib.Data.List.Perm.Subperm

/-!
# What is under a key

A list of entries is given by what is under each key, and so is a map.  These lemmas say what that
is in lists that are put together, filtered, mapped or turned round, and in the map of a list.
-/

namespace GraphStore

namespace Assoc

variable {α β : Type} {l : List (String × α)} {k : String}

theorem mem_of_get? {a : α} (h : get? k l = some a) : (k, a) ∈ l := by
  induction l with
  | nil => cases h
  | cons e rest ih =>
    by_cases hk : k = e.1
    · obtain rfl : e.2 = a := by simpa [get?, hk] using h
      subst hk
      exact List.mem_cons_self
    · exact List.mem_cons_of_mem e (ih (by simpa [get?, hk] using h))

theorem get?_of_mem (h : Sorted l) {a : α} (ha : (k, a) ∈ l) : get? k l = some a := by
  induction l with
  | nil => cases ha
  | cons e rest ih =>
    obtain ⟨hhead, htail⟩ := List.pairwise_cons.1 h
    rcases List.mem_cons.1 ha with rfl | ha
    · simp [get?]
    · have hne : k ≠ e.1 := fun heq => String.lt_irrefl k (heq ▸ hhead (k, a) ha)
      simpa [get?, hne] using ih htail ha

theorem get?_eq_none_iff : get? k l = none ↔ k ∉ l.map Prod.fst := by
  induction l with
  | nil => simp [get?]
  | cons e rest ih => by_cases hk : k = e.1 <;> simp [get?, hk, ih]

theorem isSome_get?_iff : (get? k l).isSome ↔ k ∈ l.map Prod.fst := by
  simp [Option.isSome_iff_ne_none, get?_eq_none_iff]

theorem get?_append (l l' : List (String × α)) (k : String) :
    get? k (l ++ l') = (get? k l).or (get? k l') := by
  induction l with
  | nil => rfl
  | cons e rest ih => by_cases hk : k = e.1 <;> simp [get?, hk, ih]

theorem get?_filter (p : String → Bool) (l : List (String × α)) (k : String) :
    get? k (l.filter fun e => p e.1) = if p k then get? k l else none := by
  induction l with
  | nil => simp [get?]
  | cons e rest ih =>
    by_cases hk : k = e.1
    · subst hk
      by_cases he : p e.1 <;> simp [get?, he, ih]
    · by_cases he : p e.1 <;> simp [get?, he, hk, ih]

theorem get?_map (f : α → β) (l : List (String × α)) (k : String) :
    get? k (l.map fun e => (e.1, f e.2)) = (get? k l).map f := by
  induction l with
  | nil => rfl
  | cons e rest ih => by_cases hk : k = e.1 <;> simp [get?, hk, ih]

theorem get?_reverse (h : (l.map Prod.fst).Nodup) (k : String) : get? k l.reverse = get? k l := by
  induction l with
  | nil => rfl
  | cons e rest ih =>
    obtain ⟨hhead, htail⟩ := List.nodup_cons.1 h
    rw [List.reverse_cons, get?_append, ih htail]
    by_cases hk : k = e.1
    · subst hk
      simp [get?, get?_eq_none_iff.2 hhead]
    · simp [get?, hk]

theorem Sorted.nodup (h : Sorted l) : (l.map Prod.fst).Nodup := by
  refine List.pairwise_map.2 (h.imp ?_)
  intro a b hab heq
  exact String.lt_irrefl b.1 (heq ▸ hab)

theorem Sorted.le_of_isSome {e : String × α} (h : Sorted (e :: l))
    (hk : (get? k (e :: l)).isSome) : e.1 ≤ k := by
  obtain ⟨a, ha⟩ := Option.isSome_iff_exists.1 hk
  rcases List.mem_cons.1 (mem_of_get? ha) with rfl | hmem
  · exact String.le_refl _
  · exact String.not_lt.1 (String.lt_asymm ((List.pairwise_cons.1 h).1 _ hmem))

theorem Sorted.filter (h : Sorted l) (p : String × α → Bool) : Sorted (l.filter p) :=
  List.Pairwise.filter p h

end Assoc

namespace SortedMap

variable {α : Type}

theorem get?_insertAll (m : SortedMap α) (l : List (String × α)) (k : String) :
    (m.insertAll l).get? k = (Assoc.get? k l.reverse).or (m.get? k) := by
  induction l generalizing m with
  | nil => rfl
  | cons e rest ih =>
    have hstep : m.insertAll (e :: rest) = (m.insert e.1 e.2).insertAll rest := rfl
    rw [hstep, ih, get?_insert, List.reverse_cons, Assoc.get?_append, Option.or_assoc]
    by_cases hk : k = e.1 <;> simp [Assoc.get?, hk]

/-- In the map of a list the last value of a key counts. -/
theorem get?_ofList (l : List (String × α)) (k : String) :
    (ofList l).get? k = Assoc.get? k l.reverse := by
  rw [ofList, get?_insertAll, get?_empty, Option.or_none]

theorem entries_ofList {l : List (String × α)} (h : Assoc.Sorted l) : (ofList l).entries = l := by
  refine (ofList l).sorted.ext h fun k => ?_
  exact (get?_ofList l k).trans (Assoc.get?_reverse h.nodup k)

/-! ### The number of entries -/

theorem mem_keys_iff {m : SortedMap α} {k : String} : k ∈ m.keys ↔ (m.get? k).isSome :=
  Assoc.isSome_get?_iff.symm

theorem nodup_keys (m : SortedMap α) : m.keys.Nodup := m.sorted.nodup

theorem length_keys (m : SortedMap α) : m.keys.length = m.size := List.length_map _

/-- A map has as many entries as there are names with a value. -/
theorem size_eq_length {m : SortedMap α} {names : List String} (hn : names.Nodup)
    (h : ∀ k, (m.get? k).isSome ↔ k ∈ names) : m.size = names.length := by
  rw [← length_keys]
  refine ((List.perm_ext_iff_of_nodup m.nodup_keys hn).2 fun k => ?_).length_eq
  exact mem_keys_iff.trans (h k)

theorem size_le_size {m n : SortedMap α} (h : ∀ k, (m.get? k).isSome → (n.get? k).isSome) :
    m.size ≤ n.size := by
  rw [← length_keys, ← length_keys]
  refine (m.nodup_keys.subperm fun k hk => ?_).length_le
  exact mem_keys_iff.2 (h k (mem_keys_iff.1 hk))

end SortedMap

@[simp] theorem NameSet.contains_ofNames (names : List String) (name : String) :
    (ofNames names).contains name = names.contains name := by
  rw [ofNames, SortedMap.contains, SortedMap.get?_ofList, Bool.eq_iff_iff, Assoc.isSome_get?_iff]
  simp

end GraphStore
